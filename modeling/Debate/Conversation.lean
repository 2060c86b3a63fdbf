import Debate.Message
import Debate.Value.Access

/-!
# Conversations

A conversation is the log of a discussion together with the notepad that it works on. It changes by
actions only; an action on a message that is not in the log leaves the log as it is. The one thing
that can keep an action from being carried out is a first request that no title can be made of.

* `Conversation`          the log and the notepad;
* `Conversation.find?`    the message of an id;
* `Conversation.activityAt`  when something was last said;
* `Action`                the changes;
* `Conversation.refusal?`  why a change cannot be made, if it cannot;
* `Conversation.apply`    a conversation after a change.
-/

namespace Debate

/-- the log of a discussion, and its notepad -/
structure Conversation where
  id : Value
  title : Value := .text "New Chat"
  createdAt : Value
  /-- the time of the last message that was added, empty before the first -/
  updatedAt : Value := .text ""
  messages : List Message := []
  document : Value := .text ""
  deriving DecidableEq

/-! ## titles -/

/-- the longest title -/
def titleLength : Nat := 30

/-- the title that a text makes: its start -/
def titleOfText (text : String) : String :=
  if text.length > titleLength then String.ofList (text.toList.take titleLength) ++ "..." else text

/-- the title that a request makes: a request that is short enough as it is, otherwise its start,
for which it has to be a text -/
def titleOf (v : Value) : Except Fault Value :=
  match v with
  | .text s => .ok (.text (titleOfText s))
  | v => do
    if (← v.length) > titleLength then throw (v.lacks "start") else return v

@[simp] theorem titleOf_text (s : String) : titleOf (.text s) = .ok (.text (titleOfText s)) := rfl

/-! ## changes -/

/-- a change of a conversation -/
inductive Action where
  /-- a message at the end of the log -/
  | append (message : Message)
  /-- the result of a turn, together with the notepad after it -/
  | resolve (id text durationMs document : Value)
  /-- the failure of a turn -/
  | fail (id : Value) (error : String)
  /-- a turn that is taken once more -/
  | reopen (id : Value)
  /-- a message in place of the one with its id -/
  | replace (message : Message)
  /-- the log without pending messages -/
  | dropPending
  /-- a new notepad -/
  | setDocument (content : Value)
  deriving DecidableEq

namespace Conversation

/-- when something was last said -/
def activityAt (c : Conversation) : Value := c.updatedAt.orElse c.createdAt

/-- the message of an id -/
def find? (c : Conversation) (id : Value) : Option Message := c.messages.find? (·.hasId id)

/-- the messages that are not pending -/
def settled (c : Conversation) : List Message := c.messages.filter fun m => !m.pending

/-- a conversation with the messages of one id changed -/
def modify (c : Conversation) (id : Value) (f : Message → Message) : Conversation :=
  { c with messages := c.messages.map fun m => if m.hasId id then f m else m }

/-- whether a message gives a conversation its title: it is the user's, and the first -/
def isTitled (c : Conversation) (m : Message) : Bool := c.messages.isEmpty && m.sender = .user

/-- why a change cannot be made, if it cannot -/
def refusal? (c : Conversation) : Action → Option Fault
  | .append m =>
    if c.isTitled m then
      match titleOf m.text with
      | .ok _ => none
      | .error e => some e
    else none
  | _ => none

/-- the title of a conversation with one more message -/
def titleWith (c : Conversation) (m : Message) : Value :=
  if c.isTitled m then (titleOf m.text).toOption.getD c.title else c.title

/-- a conversation after a change that can be made -/
def apply (c : Conversation) : Action → Conversation
  | .append m =>
    { c with
      title := c.titleWith m
      updatedAt := m.timestamp
      messages := c.messages ++ [m] }
  | .resolve id text durationMs document =>
    { c.modify id (·.resolved text durationMs) with document }
  | .fail id error => c.modify id (·.failed error)
  | .reopen id => c.modify id (·.reopened)
  | .replace m => c.modify m.id fun _ => m
  | .dropPending => { c with messages := c.settled }
  | .setDocument content => { c with document := content }

/-- a conversation after changes, in order -/
def applyAll (c : Conversation) (as : List Action) : Conversation := as.foldl apply c

/-- a change other than a user's first message can always be made -/
theorem refusal?_append_eq_none {c : Conversation} {m : Message} (h : m.sender ≠ .user) :
    c.refusal? (.append m) = none := by
  simp [refusal?, isTitled, h]

/-- a request that is a text can always be added -/
theorem refusal?_request {c : Conversation} {m : Message} {s : String} (h : m.text = .text s) :
    c.refusal? (.append m) = none := by
  simp only [refusal?, h, titleOf_text, ite_self]

/-- the messages of a conversation with some of them changed keep their ids -/
theorem ids_modify (c : Conversation) (id : Value) (f : Message → Message)
    (hf : ∀ m, m.hasId id = true → (f m).id = m.id) :
    (c.modify id f).messages.map (·.id) = c.messages.map (·.id) := by
  simp only [modify, List.map_map, List.map_inj_left, Function.comp_apply]
  intro m _
  split <;> rename_i h
  · exact hf m h
  · rfl

end Conversation

end Debate
