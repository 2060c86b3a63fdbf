import Debate.Fault
import Debate.Instant

/-!
# Ids and the clock

New records draw an id and take the time of their making. Ids come from a sequence that is given
from outside; nothing here depends on how they look.

* `Supply`         the sequence of ids, how many are drawn, and the time;
* `Supply.draw`    the next id;
* `Drawing`        a computation that draws ids and may end in a fault; what it drew stays drawn.
-/

namespace Debate

/-- where ids and times come from -/
structure Supply where
  /-- the ids, in the order in which they are drawn -/
  idOf : Nat → String
  drawn : Nat := 0
  now : Instant

namespace Supply

/-- the next id -/
def draw (s : Supply) : String × Supply := (s.idOf s.drawn, { s with drawn := s.drawn + 1 })

/-- the time as it stands in records -/
def timestamp (s : Supply) : String := s.now.iso

@[simp] theorem idOf_draw (s : Supply) : s.draw.2.idOf = s.idOf := rfl

@[simp] theorem drawn_draw (s : Supply) : s.draw.2.drawn = s.drawn + 1 := rfl

@[simp] theorem now_draw (s : Supply) : s.draw.2.now = s.now := rfl

@[simp] theorem timestamp_draw (s : Supply) : s.draw.2.timestamp = s.timestamp := rfl

end Supply

/-- a computation that draws ids -/
abbrev Drawing (α : Type) := ExceptT Fault (StateM Supply) α

namespace Drawing

/-- the next id -/
def newId : Drawing String := do
  let s ← get
  set s.draw.2
  pure s.draw.1

/-- the time -/
def timestamp : Drawing String := do
  let s ← get
  pure s.timestamp

end Drawing

end Debate
