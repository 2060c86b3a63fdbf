import Debate.Files.Text
import Debate.Journal

/-!
# Loading

What is loaded from files may be worth a message in the log.

* `Desk`             the disk, and the messages so far;
* `Loading`          a computation on both that may end in a fault; what it did stays done;
* `Loading.onDisk`   a computation on the disk alone;
* `Loading.log`      a message in the log.
-/

namespace Debate

open Debate.Files

/-- the disk, and the messages so far -/
structure Desk where
  disk : Disk := {}
  journal : List Entry := []

/-- a computation on the disk and the log that may end in a fault -/
abbrev Loading (α : Type) := ExceptT Fault (StateM Desk) α

namespace Loading

/-- a computation on the disk -/
def onDisk {α : Type} (m : OnDisk α) : Loading α := fun d =>
  let r := ExceptT.run m d.disk
  (r.1, { d with disk := r.2 })

/-- a message in the log -/
def log (level : Level) (text : String) : Loading Unit :=
  modify fun d => { d with journal := d.journal ++ [.log level text] }

/-- a value, or a fault -/
def ofExcept {α : Type} (r : Except Fault α) : Loading α := fun d => (r, d)

/-- the value in a file, another value in its place if it holds none -/
def readRecordOr (p : Path) (default : Value) : Loading Value := do
  let (v, warnings) ← onDisk (Disk.readRecordOr p default)
  for w in warnings do
    log .warning w
  return v

end Loading

end Debate
