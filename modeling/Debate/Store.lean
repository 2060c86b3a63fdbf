import Debate.Conversation

/-!
# The store

The store holds the conversation at hand. While a turn is in flight a user's edit of the notepad is
kept back; it lands when the turn ends, so that the turn cannot overwrite it. Of several such edits
the last one counts. Every change is shown to the listeners; no operation shows more than one
conversation, and when it does the store has changed already.

* `Store`                 the conversation, and what is known of the turn in flight;
* `Store.Operation`       the operations;
* `Store.refusal?`        why an operation cannot be carried out, if it cannot;
* `Store.perform`         a store after an operation, and whether it is shown;
* `Roster`                the listeners, in the order of their subscriptions;
* `Roster.calls`          how often a listener is called.
-/

namespace Debate

/-- the conversation at hand -/
structure Store where
  conversation : Conversation
  /-- a turn is in flight -/
  turnInFlight : Bool := false
  /-- the edit that waits for the end of the turn; null for none -/
  pendingEdit : Value := .null
  deriving DecidableEq

namespace Store

/-- an operation on the store -/
inductive Operation where
  /-- a change of the conversation -/
  | dispatch (action : Action)
  /-- a turn starts -/
  | beginTurn
  /-- a turn ends -/
  | endTurn
  /-- a user's edit of the notepad -/
  | edit (content : Value)
  /-- another conversation in place of the present one -/
  | load (conversation : Conversation)
  deriving DecidableEq

/-- why an operation cannot be carried out, if it cannot -/
def refusal? (s : Store) : Operation → Option Fault
  | .dispatch a => s.conversation.refusal? a
  | _ => none

/-- a store after a change of its conversation -/
def dispatch (s : Store) (a : Action) : Store :=
  { s with conversation := s.conversation.apply a }

/-- a store after an operation that can be carried out, and whether the listeners are shown its
conversation -/
def perform (s : Store) : Operation → Store × Bool
  | .dispatch a => (s.dispatch a, true)
  | .beginTurn => ({ s with turnInFlight := true }, false)
  | .endTurn =>
    let ended := { s with turnInFlight := false, pendingEdit := .null }
    if s.pendingEdit = .null then (ended, false)
    else (ended.dispatch (.setDocument s.pendingEdit), true)
  | .edit content =>
    if s.turnInFlight then ({ s with pendingEdit := content }, false)
    else (s.dispatch (.setDocument content), true)
  | .load conversation => ({ conversation }, true)

/-- a store after operations, in order, and the conversations that were shown -/
def performAll (s : Store) : List Operation → Store × List Conversation
  | [] => (s, [])
  | op :: ops =>
    let r := s.perform op
    let rest := r.1.performAll ops
    (rest.1, if r.2 then r.1.conversation :: rest.2 else rest.2)

@[simp] theorem performAll_nil (s : Store) : s.performAll [] = (s, []) := rfl

theorem performAll_append (s : Store) (ops ops' : List Operation) :
    s.performAll (ops ++ ops') =
      (((s.performAll ops).1.performAll ops').1,
        (s.performAll ops).2 ++ ((s.performAll ops).1.performAll ops').2) := by
  induction ops generalizing s with
  | nil => rfl
  | cons op ops ih =>
    simp only [List.cons_append, performAll, ih]
    split <;> simp

end Store

/-! ## listeners -/

/-- the listeners, one entry for each subscription, in order -/
structure Roster (α : Type) where
  listeners : List α := []
  deriving DecidableEq, Repr

namespace Roster

variable {α : Type} [DecidableEq α]

/-- a listener is added at the end -/
def subscribe (r : Roster α) (x : α) : Roster α := { listeners := r.listeners ++ [x] }

/-- the first entry of a listener is removed, if it has one -/
def unsubscribe (r : Roster α) (x : α) : Roster α := { listeners := r.listeners.erase x }

/-- how often a listener is called when a conversation is shown -/
def calls (r : Roster α) (x : α) : Nat := r.listeners.count x

theorem calls_subscribe (r : Roster α) (x y : α) :
    (r.subscribe y).calls x = r.calls x + if y = x then 1 else 0 := by
  simp [calls, subscribe, List.count_cons]

theorem calls_unsubscribe (r : Roster α) (x y : α) :
    (r.unsubscribe y).calls x = r.calls x - if y = x then 1 else 0 := by
  simp [calls, unsubscribe, List.count_erase]

end Roster

end Debate
