import Debate.Moderator.Run

/-!
# Commands

What a user can tell the moderator, and how it answers. Attaching another conversation cancels the
run at hand and waits until it is settled; everything else is done at once.

* `Command`     what the moderator is told;
* `Answer`      what it answers;
* `obey`        a command carried out;
* `attach`      the next conversation that waits and whose turn has come.
-/

namespace Debate

open Debate.Number

/-- what the moderator is told -/
inductive Command where
  | submit (text image : Value)
  | retry
  | cancel
  | edit (content : Value)
  /-- another conversation, once the run at hand is settled -/
  | switch (conversation : Conversation)
  /-- a new conversation, once the run at hand is settled -/
  | startNew (document : Value)
  /-- a failed step that was kept elsewhere -/
  | restore (step : Option FailedStep)
  /-- another conversation at once -/
  | load (conversation : Conversation)
  /-- other settings -/
  | configure (mode : Option Mode) (maxTurns : Option Value)
  | look
  deriving DecidableEq

/-- what the moderator answers -/
inductive Answer where
  | nothing
  | done (b : Bool)
  | state (s : RunState)
  | opened (id : Value)
  | iterations (n : Value)
  | looked (s : Snapshot)
  /-- the run was started; its answer comes when it is settled -/
  | later
  deriving DecidableEq

namespace Moderator

variable {σ : Type}

/-- a failed step that was kept elsewhere; one whose message is not there is dropped -/
def restore (step : Option FailedStep) : Moderating σ Unit := do
  match step with
  | none => modify fun m => { m with failedStep := none }
  | some x =>
    if ((← get).store.conversation.find? x.messageId).isSome then
      modify fun m => { m with failedStep := some x }
    else
      log .warning ("Failed message " ++ x.messageId.shown ++ " is not in the conversation, ignoring")
      modify fun m => { m with failedStep := none }

/-- a conversation in place of the one at hand -/
def attachNow (s : Surroundings σ) (c : Conversation) : Moderating σ Unit := do
  perform s (.load c)
  modify fun m => { m with failedStep := none }

/-- another conversation, once the run at hand is settled -/
def switch (s : Surroundings σ) (c : Conversation) : Moderating σ Unit := do
  let _ ← cancel
  if (← get).running then
    modify fun m => { m with waiting := m.waiting ++ [{ conversation := c }] }
  else attachNow s c

/-- the first conversation that waits and whose turn has come is attached; whether there was one -/
def attach (s : Surroundings σ) : Moderating σ Bool := do
  match (← get).waiting with
  | w :: rest =>
    if w.woken then
      modify fun m => { m with waiting := rest }
      attachNow s w.conversation
      return true
    else return false
  | [] => return false

/-- a new conversation with a notepad to start with -/
def newConversation (document : Value) : Moderating σ Conversation := do
  let id ← newId
  let now ← timestamp
  return { id := .text id, createdAt := .text now, document }

/-- a command carried out -/
def obey (s : Surroundings σ) : Command → Moderating σ Answer
  | .submit text image => do
    match ← submit s text image with
    | some state => return .state state
    | none => return .later
  | .retry => do
    match ← retry s with
    | some b => return .done b
    | none => return .later
  | .cancel => do return .done (← cancel)
  | .edit content => do
    editWith (announce s s.depth) content
    return .nothing
  | .switch c => do
    switch s c
    return .nothing
  | .startNew document => do
    let c ← newConversation document
    switch s c
    return .opened c.id
  | .restore step => do
    restore step
    return .nothing
  | .load c => do
    perform s (.load c)
    return .nothing
  | .configure mode maxTurns => do
    modify fun m => { m with settings := { m.settings with
      mode := mode.getD m.settings.mode, maxTurns := maxTurns.getD m.settings.maxTurns } }
    return .iterations (← get).settings.limit
  | .look => do return .looked (← get).snapshot

end Moderator

end Debate
