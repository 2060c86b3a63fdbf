import Debate.Files.Text
import Debate.Record
import Debate.RunState

/-!
# Saved runs

A run has a directory. The conversation and the failed step that can be retried stand in one file of
it, how the last run settled in another.

* `Transcript.save`         writes the conversation and the failed step;
* `Transcript.loadValue`, `Transcript.read`   read them back;
* `Transcript.readNotepad`  reads a text to start the notepad with;
* `Transcript.resolve`      writes how a run settled.

A transcript that lacks a field, or names a sender or purpose that does not exist, is passed over
with a warning; it is a fault if a part of it is of the wrong type altogether.
-/

namespace Debate.Transcript

open Debate.Files

/-! ## saving -/

/-- the file of the conversation -/
def conversationPath (run : Path) : Path := run.child "conversation.json"

/-- the file that says how a run settled -/
def resolutionPath (run : Path) : Path := run.child "resolution.json"

/-- what is saved of a run -/
def savedValue (timestamp : String) (c : Conversation) (step : Option FailedStep) : Value :=
  .object [("timestamp", .text timestamp), ("conversation", c.toValue),
    ("failed_step", (step.map FailedStep.toValue).getD .null)]

/-- writes the conversation and the failed step -/
def save (run : Path) (timestamp : String) (c : Conversation) (step : Option FailedStep) :
    OnDisk Unit :=
  Disk.writeRecord (conversationPath run) (savedValue timestamp c step)

/-- how a run settled, as a record -/
def resolutionValue (timestamp : String) (outcome : RunState) (summary : Value) : Value :=
  .object [("timestamp", .text timestamp), ("outcome", .text outcome.name), ("summary", summary)]

/-- writes how a run settled -/
def resolve (run : Path) (timestamp : String) (outcome : RunState) (summary : Value) :
    OnDisk Unit :=
  Disk.writeRecord (resolutionPath run) (resolutionValue timestamp outcome summary)

/-- the text to start the notepad with; empty where no file is named -/
def readNotepad (path : Option Path) : OnDisk String :=
  match path with
  | some p => Disk.readText p
  | none => return ""

/-! ## loading -/

/-- what was read of a run -/
structure Loaded where
  conversation : Option Conversation := none
  failedStep : Option FailedStep := none
  deriving DecidableEq

/-- the parts of a saved run -/
def parts (v : Value) : Drawing Loaded := do
  let fs ← v.fields
  let conversation ← Conversation.read (fs.getD "conversation" (.object []))
  let step := fs.getD "failed_step" .null
  if step.isVoid then return { conversation := some conversation }
  else return { conversation := some conversation, failedStep := some (← FailedStep.read step) }

/-- whether a fault says that a record is incomplete or holds a value that is not allowed -/
def isReadable : Fault → Bool
  | .badValue _ | .missingKey _ => true
  | _ => false

/-- a saved run as its parts, and the warning if it is passed over -/
def read (run : Path) (v : Value) : Drawing (Loaded × List String) := fun s =>
  if v.isVoid then (.ok ({}, []), s)
  else
    match ExceptT.run (parts v) s with
    | (.ok loaded, s') => (.ok (loaded, []), s')
    | (.error e, s') =>
      if isReadable e then
        (.ok ({}, ["Unreadable transcript in " ++ run.text ++ ": " ++ e.message]), s')
      else (.error e, s')

/-- the value in the file of the conversation, null if there is none, and warnings -/
def loadValue (run : Path) : OnDisk (Value × List String) :=
  Disk.readRecordOr (conversationPath run) .null

end Debate.Transcript
