import Debate.Moderator.State
import Debate.Transcript.Writer

/-!
# The console

The console shows every message once it is settled: on the screen, with who wrote it and how long it
took, and in the live log. A message whose text changes later is shown again. What was shown is
remembered by id and text, so both must be of types that can stand as keys. Together with the writer
of the thread log the console listens to the conversation.

* `Console`          who the personas are, and what was shown;
* `Console.hear`     what is shown of a conversation;
* `Console.fault?`   why no console can be made for a conversation, if none can;
* `Audience`         the writer and the console, with the disk that is written to;
* `Audience.hear`    what both do when they are shown a conversation.
-/

namespace Debate.CommandLine

open Debate.Files Debate.Transcript

/-- who the personas are, and what was shown -/
structure Console where
  settings : Settings
  /-- the messages that were shown, each with its text -/
  seen : List (Value × Value) := []
  deriving DecidableEq

namespace Console

/-- why it cannot be remembered that a message was shown, if it cannot -/
def messageFault? (m : Message) : Option Fault :=
  ([m.id, m.text].find? fun v => !v.isKey).map Value.notAKey

/-- why no console can be made for a conversation, if none can -/
def fault? (c : Conversation) : Option Fault := c.messages.findSome? messageFault?

/-- a console on which the messages of a conversation count as shown -/
def start (settings : Settings) (c : Conversation) : Console where
  settings := settings
  seen := c.messages.map fun m => (m.id, m.text)

/-- who wrote a message -/
def label (c : Console) (m : Message) : String := c.settings.displayName m.sender

/-- whether a message was shown -/
def hasShown (c : Console) (m : Message) : Bool :=
  c.seen.any fun x => m.id.isAmong [x.1] && m.text.isAmong [x.2]

/-- how a message is shown on the screen -/
def shown (c : Console) (m : Message) : String :=
  let timing := if m.durationMs = .null then "" else " (" ++ m.durationMs.shown ++ " ms)"
  "\n[" ++ c.label m ++ "]" ++ timing ++ "\n" ++ m.text.shown

/-- the entries that show a message -/
def entries (c : Console) (now : Instant) (m : Message) : List Entry :=
  [.printed (c.shown m), .liveAt now (c.label m ++ ": " ++ m.text.shown)]

/-- the console after a message was shown -/
def remember (c : Console) (m : Message) : Console := { c with seen := (m.id, m.text) :: c.seen }

/-- what is shown of messages; the first fault ends it -/
def hear (c : Console) (now : Instant) : List Message → Option Fault × Console × List Entry
  | [] => (none, c, [])
  | m :: ms =>
    if m.pending then hear c now ms
    else
      match messageFault? m with
      | some e => (some e, c, [])
      | none =>
        if c.hasShown m then hear c now ms
        else
          let r := hear (c.remember m) now ms
          (r.1, r.2.1, c.entries now m ++ r.2.2)

end Console

/-! ## listening -/

/-- the writer and the console, with the disk that is written to -/
structure Audience where
  writer : Writer
  console : Console
  disk : Disk

/-- what both do when they are shown a conversation; the console sees nothing if the writer fails -/
def Audience.hear (now : Instant) (c : Conversation) (a : Audience) : Heard Audience :=
  match a.writer.hear a.disk c with
  | (.error e, writer, disk) => { audience := { a with writer, disk }, fault := some e }
  | (.ok (), writer, disk) =>
    let (fault, console, entries) := a.console.hear now c.messages
    { audience := { writer, console, disk }, entries, fault }

end Debate.CommandLine
