/-!
# States of a run

* `Outcome`     how a run settles;
* `RunState`    whether a run is under way, and how it settled, with their names in records.
-/

namespace Debate

/-- how a run settles -/
inductive Outcome where
  | complete
  | cancelled
  | failed
  deriving DecidableEq, Repr

/-- the state of a run -/
inductive RunState where
  | idle
  | running
  | settled (outcome : Outcome)
  deriving DecidableEq, Repr

namespace RunState

/-- the name in records -/
def name : RunState → String
  | .idle => "idle"
  | .running => "running"
  | .settled .complete => "settled-complete"
  | .settled .cancelled => "settled-cancelled"
  | .settled .failed => "settled-failed"

/-- all states -/
def all : List RunState :=
  [.idle, .running, .settled .complete, .settled .cancelled, .settled .failed]

/-- the state of a name -/
def ofName? (s : String) : Option RunState := all.find? fun x => x.name = s

theorem ofName?_name (x : RunState) : ofName? x.name = some x := by
  rcases x with _ | _ | o
  · decide
  · decide
  · cases o <;> decide

end RunState

/-- the name of an outcome in records -/
def Outcome.name (o : Outcome) : String := (RunState.settled o).name

end Debate
