/-!
# Environment variables

* `Environment`        the variables that are set;
* `Environment.get?`   the value of a variable;
* `Environment.getD`   the value of a variable, empty if it is not set.
-/

namespace Debate

/-- the variables that are set -/
structure Environment where
  bindings : List (String × String) := []
  deriving DecidableEq, Repr

namespace Environment

/-- the value of a variable -/
def get? (env : Environment) (name : String) : Option String :=
  (env.bindings.find? fun v => v.1 = name).map (·.2)

/-- the value of a variable, empty if it is not set -/
def getD (env : Environment) (name : String) : String := (env.get? name).getD ""

end Environment

end Debate
