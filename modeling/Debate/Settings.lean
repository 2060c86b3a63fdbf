import Debate.Fault
import Debate.Persona
import Debate.Provider.Settings

/-!
# Settings of a discussion

* `Mode`             a fixed number of turns, or until the personas agree to end;
* `Settings`         the mode, the two personas, and the providers;
* `Settings.limit`         how often both personas take a turn, at most;
* `Settings.iterations`    the same as a number;
* `Settings.debater`      the persona of a sender that debates.
-/

namespace Debate

/-- how a discussion ends -/
inductive Mode where
  /-- after a number of turns -/
  | fixed
  /-- when both personas agree -/
  | agentDriven
  deriving DecidableEq, Repr

namespace Mode

/-- the name in settings -/
def name : Mode → String
  | .fixed => "fixed"
  | .agentDriven => "agent-driven"

/-- the modes, in the order in which they are offered -/
def all : List Mode := [.fixed, .agentDriven]

/-- the mode of a name -/
def ofName? (s : String) : Option Mode := all.find? fun m => m.name = s

theorem ofName?_name (m : Mode) : ofName? m.name = some m := by cases m <;> decide

end Mode

/-- the settings of a discussion -/
structure Settings where
  mode : Mode := .agentDriven
  /-- turns of each persona, in the fixed mode -/
  maxTurns : Value := .int 2
  agentA : Persona := .cognito
  agentB : Persona := .muse
  providers : ProviderSettings := {}
  deriving DecidableEq

namespace Settings

/-- iterations after which a discussion ends even if the personas do not agree -/
def ceiling : Int := 10

/-- how often both personas take a turn, at most -/
def limit (s : Settings) : Value :=
  match s.mode with
  | .fixed => s.maxTurns
  | .agentDriven => .int ceiling

/-- whether settings of the fixed mode have too few turns; a fault if turns are no number -/
def hasTooFewTurns (s : Settings) : Except Fault Bool :=
  match s.mode with
  | .fixed => s.maxTurns.less (.int 1)
  | .agentDriven => .ok false

/-- how often both personas take a turn, at most; a fault unless it is a whole number -/
def iterations (s : Settings) : Except Fault Int :=
  match s.limit with
  | .int n => .ok n
  | .bool b => .ok (if b then 1 else 0)
  | v => .error (.unsupported ("'" ++ v.kind ++ "' object cannot be interpreted as an integer"))

/-- the persona of a sender; nothing for a sender that does not debate -/
def persona? (s : Settings) : Sender → Option Persona
  | .agentA => some s.agentA
  | .agentB => some s.agentB
  | .user | .system => none

/-- the persona of a sender; a fault for a sender that does not debate -/
def debater (s : Settings) (sender : Sender) : Except Fault Persona :=
  match s.persona? sender with
  | some p => .ok p
  | none => .error (.badValue (sender.name ++ " is not a debating persona"))

/-- the name of a sender in the history of a discussion -/
def displayName (s : Settings) : Sender → String
  | .user => "User"
  | .system => "System"
  | .agentA => s.agentA.title
  | .agentB => s.agentB.title

end Settings

end Debate
