import Debate.Files.Text
import Debate.Record

/-!
# The thread log

The writer listens to the store. It adds a line to the thread log for each message that is settled
and was not recorded with this text, and keeps the notepad in a file of its own. What it has recorded
it remembers by itself; a message that was settled from the start counts as recorded. Messages are
remembered by their ids, so an id must be of a type that can stand as a key.

* `Writer`           the directory, and what was recorded;
* `Writer.start`     a writer for a conversation;
* `Writer.isNews`    whether a message is recorded next time it is seen;
* `Writer.hear`      what the writer does when it is shown a conversation;
* `Conversation.idFault?`  why no writer can be made for a conversation, if none can.
-/

namespace Debate

/-- why the messages of a conversation cannot be remembered by their ids, if they cannot -/
def Conversation.idFault? (c : Conversation) : Option Fault :=
  (c.messages.find? fun m => !m.id.isKey).map fun m => m.id.notAKey

namespace Transcript

open Debate.Files

/-- what the writer remembers -/
structure Writer where
  run : Path
  /-- the messages that were recorded -/
  written : List Value
  /-- the text that each message had when it was last looked at -/
  texts : List (Value × Value)
  /-- the notepad that was last written -/
  document : Value
  deriving DecidableEq

namespace Writer

/-- the file of the thread log -/
def threadPath (w : Writer) : Path := w.run.child "thread.jsonl"

/-- the file of the notepad -/
def notepadPath (w : Writer) : Path := w.run.child "notepad.md"

/-- a writer that takes the settled messages of a conversation as recorded -/
def start (run : Path) (c : Conversation) : Writer where
  run := run
  written := c.settled.map (·.id)
  texts := c.messages.reverse.map fun m => (m.id, m.text)
  document := c.document

/-- whether a message was recorded -/
def hasWritten (w : Writer) (m : Message) : Bool := m.id.isAmong w.written

/-- the text that a message had -/
def textOf? (w : Writer) (id : Value) : Option Value :=
  (w.texts.find? fun t => id.isAmong [t.1]).map (·.2)

/-- whether a message had the text before that it has now -/
def hasText (w : Writer) (m : Message) : Bool := ((w.textOf? m.id).getD .null).same m.text

/-- whether a message is recorded when it is seen -/
def isNews (w : Writer) (m : Message) : Bool := !m.pending && !(w.hasWritten m && w.hasText m)

/-- the entry of a message: a revision if the message was recorded before -/
def entry (w : Writer) (m : Message) : Value :=
  .object (m.toFields ++ [("revision", .bool (w.hasWritten m))])

/-- the writer after a message was recorded -/
def remember (w : Writer) (m : Message) : Writer :=
  { w with written := m.id :: w.written, texts := (m.id, m.text) :: w.texts }

/-- records the messages that are news, in order; the first fault ends it -/
def hearMessages (w : Writer) (d : Disk) : List Message → Except Fault Unit × Writer × Disk
  | [] => (.ok (), w, d)
  | m :: ms =>
    if !m.pending && !m.id.isKey then (.error m.id.notAKey, w, d)
    else if w.isNews m then
      match ExceptT.run (Disk.appendRecord w.threadPath (w.entry m)) d with
      | (.ok (), d) => hearMessages (w.remember m) d ms
      | (.error e, d) => (.error e, w, d)
    else hearMessages w d ms

/-- writes the notepad if it is another one; it counts as written from the attempt on -/
def hearDocument (w : Writer) (d : Disk) (document : Value) : Except Fault Unit × Writer × Disk :=
  if document.same w.document then (.ok (), w, d)
  else
    let w := { w with document }
    let r := ExceptT.run (Disk.writeContent w.notepadPath document) d
    (r.1, w, r.2)

/-- what the writer does when it is shown a conversation -/
def hear (w : Writer) (d : Disk) (c : Conversation) : Except Fault Unit × Writer × Disk :=
  match hearMessages w d c.messages with
  | (.ok (), w, d) => hearDocument w d c.document
  | r => r

end Writer

end Transcript

end Debate
