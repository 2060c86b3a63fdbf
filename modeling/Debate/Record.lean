import Debate.Conversation
import Debate.Message
import Debate.Supply
import Debate.Value.Access

/-!
# Records

A record is a message, a conversation or a failed step as it stands in a file: an object whose
fields may have any type. Only senders and purposes are looked at when a record is read; a missing
or empty id is drawn, and a missing time is the present one. Pending messages are never written.

* `Message.read`, `Conversation.read`, `FailedStep.read`            what an object stands for;
* `Message.toFields`, `Conversation.toValue`, `FailedStep.toValue`  the objects of what is at hand;
* `Action.read`                                                     the change that an object asks for.
-/

namespace Debate

open Debate.Text

/-! ## reading fields -/

/-- the sender that a value names -/
def Sender.read (v : Value) : Except Fault Sender :=
  match v.text?.bind ofName? with
  | some x => .ok x
  | none => .error (.badValue (v.literal ++ " is not a valid Sender"))

/-- the purpose that a value names -/
def Purpose.read (v : Value) : Except Fault Purpose :=
  match v.text?.bind ofName? with
  | some x => .ok x
  | none => .error (.badValue (v.literal ++ " is not a valid Purpose"))

namespace Drawing

/-- a value unless it is void, otherwise the next id -/
def orNewId (v : Value) : Drawing Value := do
  if v.isVoid then return .text (← newId) else return v

/-- a value unless it is void, otherwise the time -/
def orTimestamp (v : Value) : Drawing Value := do
  if v.isVoid then return .text (← timestamp) else return v

end Drawing

/-! ## messages -/

namespace Message

/-- the message of an object; it is never pending -/
def read (v : Value) : Drawing Message := do
  let fs ← v.fields
  let id ← Drawing.orNewId (fs.getD "id" .null)
  let sender ← Sender.read (fs.getD "sender" (.text Sender.system.name))
  let purpose ← Purpose.read (fs.getD "purpose" (.text Purpose.systemNotice.name))
  let timestamp ← Drawing.orTimestamp (fs.getD "timestamp" .null)
  return {
    id, sender, purpose, timestamp
    text := fs.getD "text" (.text "")
    durationMs := fs.getD "duration_ms" .null
    image := fs.getD "image" .null }

/-- the fields of the object of a message -/
def toFields (m : Message) : Fields :=
  [("id", m.id), ("sender", .text m.sender.name), ("text", m.text),
    ("purpose", .text m.purpose.name), ("timestamp", m.timestamp)] ++
  (if m.durationMs = .null then [] else [("duration_ms", m.durationMs)]) ++
  (if m.image.isVoid then [] else [("image", m.image)])

/-- the message of an object that may say that it is pending -/
def readPending (v : Value) : Drawing Message := do
  let m ← read v
  return { m with pending := !(((v.get? "pending").getD .null).isVoid) }

end Message

/-! ## conversations -/

namespace Conversation

/-- the conversation of an object, with its messages read in a given way -/
def readWith (message : Value → Drawing Message) (v : Value) : Drawing Conversation := do
  let fs ← v.fields
  let id ← Drawing.orNewId (fs.getD "id" .null)
  let createdAt ← Drawing.orTimestamp (fs.getD "created_at" .null)
  let items ← (fs.getD "messages" (.list [])).elements
  let messages ← items.mapM message
  return {
    id, createdAt, messages
    title := fs.getD "title" (.text "New Chat")
    updatedAt := fs.getD "updated_at" (.text "")
    document := fs.getD "document" (.text "") }

/-- the conversation of an object; no message of it is pending -/
def read (v : Value) : Drawing Conversation := readWith Message.read v

/-- the conversation of an object whose messages may be pending -/
def readPending (v : Value) : Drawing Conversation := readWith Message.readPending v

/-- the object of a conversation, without its pending messages -/
def toValue (c : Conversation) : Value :=
  .object [("id", c.id), ("title", c.title), ("created_at", c.createdAt),
    ("updated_at", c.activityAt),
    ("messages", .list (c.settled.map fun m => .object m.toFields)),
    ("document", c.document)]

end Conversation

/-! ## failed steps -/

namespace FailedStep

/-- the failed step of an object -/
def read (v : Value) : Except Fault FailedStep := do
  let messageId ← v.at "message_id"
  let prompt ← v.at "prompt"
  let sender ← Sender.read (← v.at "sender")
  return { messageId, prompt, sender }

/-- the object of a failed step -/
def toValue (s : FailedStep) : Value :=
  .object [("message_id", s.messageId), ("prompt", s.prompt), ("sender", .text s.sender.name)]

/-- a failed step is what its object says -/
theorem read_toValue (s : FailedStep) : read s.toValue = .ok s := by
  obtain ⟨id, prompt, sender⟩ := s
  cases sender <;> rfl

end FailedStep

/-! ## changes -/

/-- the change that an object asks for -/
def Action.read (v : Value) : Drawing Action := do
  match (← v.at "do").shown with
  | "append" => return .append (← Message.readPending (← v.at "message"))
  | "placeholder" =>
    let sender ← Sender.read (← v.at "sender")
    return .append (.placeholder (← Drawing.newId) (← Drawing.timestamp) sender)
  | "resolve" =>
    let id ← v.at "message_id"
    let text ← v.at "text"
    let durationMs ← v.at "duration_ms"
    return .resolve id text durationMs (← v.at "document")
  | "fail" =>
    let id ← v.at "message_id"
    return .fail id (← v.at "message").shown
  | "reopen" => return .reopen (← v.at "message_id")
  | "replace" => return .replace (← Message.readPending (← v.at "message"))
  | "drop" => return .dropPending
  | "set_document" => return .setDocument (← v.at "content")
  | other => throw (.unsupported ("no change: " ++ other))

end Debate
