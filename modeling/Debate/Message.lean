import Debate.Value.Comparison

/-!
# Messages

A message is one entry of the log of a discussion: who sends it, what it says, and what it is for.
A pending message holds the place of a turn that is under way. Only senders and purposes are ever
checked; everything else that a message holds may have any type, as it may come from a file. What is
kept of a turn that failed, so that it can be taken once more, may likewise come from a file: it may
name any message and hold any prompt.

* `Sender`, `Purpose`    who sends a message and what it is for, with their names in records;
* `Message`              an entry of the log;
* `Message.placeholder`  the pending message of a turn;
* `Message.notice`       a message of the moderator;
* `FailedStep`           the message of a turn that failed, its prompt, and whose turn it was.
-/

namespace Debate

/-! ## senders and purposes -/

/-- who sends a message -/
inductive Sender where
  | user
  | agentA
  | agentB
  | system
  deriving DecidableEq, Repr

namespace Sender

/-- the name in records -/
def name : Sender → String
  | .user => "user"
  | .agentA => "agent_a"
  | .agentB => "agent_b"
  | .system => "system"

/-- the sender of a name -/
def ofName? (s : String) : Option Sender :=
  [Sender.user, .agentA, .agentB, .system].find? fun x => x.name = s

theorem ofName?_name (x : Sender) : ofName? x.name = some x := by cases x <;> decide

end Sender

/-- what a message is for -/
inductive Purpose where
  | userInput
  | agentToAgent
  | finalAnswer
  | error
  | systemNotice
  deriving DecidableEq, Repr

namespace Purpose

/-- the name in records -/
def name : Purpose → String
  | .userInput => "user-input"
  | .agentToAgent => "agent-to-agent"
  | .finalAnswer => "final-answer"
  | .error => "error"
  | .systemNotice => "system-notice"

/-- the purpose of a name -/
def ofName? (s : String) : Option Purpose :=
  [Purpose.userInput, .agentToAgent, .finalAnswer, .error, .systemNotice].find? fun x => x.name = s

theorem ofName?_name (x : Purpose) : ofName? x.name = some x := by cases x <;> decide

end Purpose

/-! ## messages -/

/-- one entry of the log -/
structure Message where
  id : Value
  sender : Sender
  text : Value
  purpose : Purpose
  timestamp : Value
  /-- how long the turn took, in milliseconds; null for a message that is not the result of one -/
  durationMs : Value := .null
  /-- an attached image, as a data URL; null for none -/
  image : Value := .null
  /-- the turn of the message is still under way -/
  pending : Bool := false
  deriving DecidableEq

namespace Message

/-- the text of a message whose turn is under way -/
def placeholderText : String := "..."

/-- the message of a turn that starts -/
def placeholder (id timestamp : String) (sender : Sender) : Message where
  id := .text id
  sender := sender
  text := .text placeholderText
  purpose := .agentToAgent
  timestamp := .text timestamp
  pending := true

/-- a message of the moderator -/
def notice (id timestamp text : String) : Message where
  id := .text id
  sender := .system
  text := .text text
  purpose := .systemNotice
  timestamp := .text timestamp

/-- a request of the user, perhaps with an image -/
def request (id timestamp : String) (text image : Value) : Message where
  id := .text id
  sender := .user
  text := text
  purpose := .userInput
  timestamp := .text timestamp
  image := image

/-- whether a message has an id -/
def hasId (m : Message) (id : Value) : Bool := m.id.same id

/-- a message with the result of its turn -/
def resolved (text durationMs : Value) (m : Message) : Message :=
  { m with text, durationMs, pending := false }

/-- the text of a message whose turn failed -/
def errorText (error : String) : String := "Error: " ++ error

/-- a message whose turn failed -/
def failed (error : String) (m : Message) : Message :=
  { m with text := .text (errorText error), purpose := .error, pending := false }

/-- a message whose turn is taken once more -/
def reopened (m : Message) : Message :=
  { m with text := .text placeholderText, purpose := .agentToAgent, pending := true }

@[simp] theorem id_resolved (text durationMs : Value) (m : Message) :
    (m.resolved text durationMs).id = m.id := rfl

@[simp] theorem id_failed (error : String) (m : Message) : (m.failed error).id = m.id := rfl

@[simp] theorem id_reopened (m : Message) : m.reopened.id = m.id := rfl

end Message

/-! ## turns that failed -/

/-- a turn that failed -/
structure FailedStep where
  messageId : Value
  /-- the prompt as it was sent -/
  prompt : Value
  sender : Sender
  deriving DecidableEq

end Debate
