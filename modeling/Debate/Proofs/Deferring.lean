import Debate.Store

/-!
# Edits that wait

An edit that comes in while a turn is in flight waits for the end of the turn. That is as if it came
in right behind the end: operations can be put in an order in which no edit waits, and whoever
listens is shown the same conversations. Of several edits during a turn only the last one is left
then. None is left if another conversation is loaded during the turn.

* `Store.attempt`, `Store.attemptAll`   operations, of which some may be refused;
* `Store.HoldsBack`                     an edit waits only while a turn is in flight;
* `Store.moveEdits`                     operations with edits moved behind the end of the turn;
* `Store.attempt_moveEdit`              one operation, and what is left of it;
* `Store.attemptAll_moveEdits`          all of them, from any store;
* `Store.edits_moved`                   all of them, from a new store.
-/

namespace Debate.Store

variable {s : Store} {op : Operation} {ops : List Operation}

/-! ## operations that may be refused -/

/-- a store after an operation, and the conversation that the listeners are shown, if they are; an
operation that is refused changes nothing -/
def attempt (s : Store) (op : Operation) : Store × List Conversation :=
  match s.refusal? op with
  | some _ => (s, [])
  | none => ((s.perform op).1, if (s.perform op).2 then [(s.perform op).1.conversation] else [])

/-- a store after operations, in order, and the conversations that were shown -/
def attemptAll (s : Store) : List Operation → Store × List Conversation
  | [] => (s, [])
  | op :: ops =>
    let r := s.attempt op
    let rest := r.1.attemptAll ops
    (rest.1, r.2 ++ rest.2)

theorem attemptAll_append (s : Store) (ops ops' : List Operation) :
    s.attemptAll (ops ++ ops') =
      (((s.attemptAll ops).1.attemptAll ops').1,
        (s.attemptAll ops).2 ++ ((s.attemptAll ops).1.attemptAll ops').2) := by
  induction ops generalizing s with
  | nil => rfl
  | cons op ops ih => simp only [List.cons_append, attemptAll, ih, List.append_assoc]

theorem attemptAll_singleton (s : Store) (op : Operation) : s.attemptAll [op] = s.attempt op := by
  rw [attemptAll, attemptAll, List.append_nil]

theorem attempt_of_refusal (h : s.refusal? op = none) :
    s.attempt op =
      ((s.perform op).1, if (s.perform op).2 then [(s.perform op).1.conversation] else []) := by
  rw [attempt, h]

theorem attemptAll_eq_performAll (h : ∀ s : Store, ∀ op ∈ ops, s.refusal? op = none) (s : Store) :
    s.attemptAll ops = s.performAll ops := by
  induction ops generalizing s with
  | nil => rfl
  | cons op ops ih =>
    rw [attemptAll, performAll, attempt_of_refusal (h s op List.mem_cons_self)]
    dsimp only
    rw [ih fun s x hx => h s x (List.mem_cons_of_mem op hx)]
    cases (s.perform op).2 <;> rfl

/-! ## edits that wait -/

/-- an edit waits only while a turn is in flight -/
def HoldsBack (s : Store) : Prop := s.turnInFlight = false → s.pendingEdit = .null

theorem HoldsBack.attempt (h : s.HoldsBack) (op : Operation) : (s.attempt op).1.HoldsBack := by
  cases hrefused : s.refusal? op with
  | some e =>
    rw [Store.attempt, hrefused]
    exact h
  | none =>
    rw [attempt_of_refusal hrefused]
    cases op with
    | dispatch a => exact h
    | beginTurn => exact nofun
    | endTurn =>
      simp only [perform]
      split <;> exact fun _ => rfl
    | edit content =>
      simp only [perform]
      split
      · rename_i hflight
        exact fun hlanded => absurd (hflight.symm.trans hlanded) (by decide)
      · exact h
    | load conversation => exact fun _ => rfl

theorem HoldsBack.attemptAll (h : s.HoldsBack) (ops : List Operation) :
    (s.attemptAll ops).1.HoldsBack := by
  induction ops generalizing s with
  | nil => exact h
  | cons op ops ih => exact ih (h.attempt op)

/-! ## edits moved -/

/-- an edit, if it is one: null takes back the edit that waits -/
def edit? : Value → Option Value
  | .null => none
  | v => some v

/-- a turn in flight with the edit that waits, if there is one -/
def turn? (s : Store) : Option (Option Value) :=
  if s.turnInFlight then some (edit? s.pendingEdit) else none

/-- the store without the edit that waits -/
def withoutEdit (s : Store) : Store := { s with pendingEdit := .null }

/-- what is left of an operation when edits are moved behind the turn in which they come in, and the
turn in flight then, with the last edit that came in -/
def moveEdit (turn : Option (Option Value)) : Operation → List Operation × Option (Option Value)
  | .beginTurn => ([.beginTurn], some turn.join)
  | .endTurn => (.endTurn :: (turn.join.map fun v => .dispatch (.setDocument v)).toList, none)
  | .edit content =>
    match turn with
    | some _ => ([], some (edit? content))
    | none => ([.edit content], none)
  | .load conversation => ([.load conversation], none)
  | .dispatch action => ([.dispatch action], turn)

/-- operations with the edits that come in during a turn moved behind its end: of several the last
one is left, and none of them if another conversation is loaded before the turn ends -/
def moveEdits (turn : Option (Option Value)) : List Operation → List Operation
  | [] => []
  | op :: ops => (moveEdit turn op).1 ++ moveEdits (moveEdit turn op).2 ops

theorem edit?_of_ne {v : Value} (h : v ≠ .null) : edit? v = some v := by
  cases v with
  | null => exact absurd rfl h
  | _ => rfl

theorem join_turn? (h : s.HoldsBack) : s.turn?.join = edit? s.pendingEdit := by
  rw [turn?]
  cases hflight : s.turnInFlight with
  | true => rfl
  | false => rw [h hflight]; rfl

/-- what is left of an operation does to a store without the edit that waits what the operation
does, and the listeners are shown the same -/
theorem attempt_moveEdit (h : s.HoldsBack) (op : Operation) :
    (moveEdit s.turn? op).2 = (s.attempt op).1.turn? ∧
      s.withoutEdit.attemptAll (moveEdit s.turn? op).1 =
        ((s.attempt op).1.withoutEdit, (s.attempt op).2) := by
  cases op with
  | dispatch a =>
    rw [moveEdit, attemptAll_singleton]
    have hsame : s.withoutEdit.refusal? (.dispatch a) = s.refusal? (.dispatch a) := rfl
    cases hrefused : s.refusal? (.dispatch a) with
    | some e =>
      rw [attempt, attempt, hsame, hrefused]
      exact ⟨rfl, rfl⟩
    | none =>
      rw [attempt_of_refusal hrefused, attempt_of_refusal (hsame.trans hrefused)]
      exact ⟨rfl, rfl⟩
  | beginTurn =>
    rw [moveEdit, join_turn? h]
    exact ⟨rfl, rfl⟩
  | endTurn =>
    rw [moveEdit, join_turn? h]
    by_cases hnull : s.pendingEdit = .null
    · -- nothing waits, and nothing is put behind the end
      have hperform : s.perform .endTurn =
          ({ s with turnInFlight := false, pendingEdit := .null }, false) := if_pos hnull
      rw [attempt_of_refusal rfl, hperform, hnull]
      exact ⟨rfl, rfl⟩
    · have hperform : s.perform .endTurn =
          ({ s with turnInFlight := false, pendingEdit := .null }.dispatch
            (.setDocument s.pendingEdit), true) := if_neg hnull
      rw [attempt_of_refusal rfl, hperform, edit?_of_ne hnull]
      exact ⟨rfl, rfl⟩
  | edit content =>
    rw [turn?]
    cases hflight : s.turnInFlight with
    | true =>
      have hperform : s.perform (.edit content) = ({ s with pendingEdit := content }, false) :=
        if_pos hflight
      rw [attempt_of_refusal rfl, hperform, turn?, if_pos hflight]
      exact ⟨rfl, rfl⟩
    | false =>
      have hperform (x : Store) (hx : x.turnInFlight = false) :
          x.perform (.edit content) = (x.dispatch (.setDocument content), true) :=
        if_neg (Bool.eq_false_iff.mp hx)
      have hturn : (s.dispatch (.setDocument content)).turn? = none :=
        if_neg (Bool.eq_false_iff.mp hflight)
      rw [attempt_of_refusal rfl, hperform s hflight, hturn]
      refine ⟨rfl, ?_⟩
      rw [if_neg Bool.false_ne_true, moveEdit, attemptAll_singleton, attempt_of_refusal rfl,
        hperform s.withoutEdit hflight]
      rfl
  | load conversation => exact ⟨rfl, rfl⟩

theorem attemptAll_moveEdits (h : s.HoldsBack) (ops : List Operation) :
    s.withoutEdit.attemptAll (moveEdits s.turn? ops) =
      ((s.attemptAll ops).1.withoutEdit, (s.attemptAll ops).2) := by
  induction ops generalizing s with
  | nil => rfl
  | cons op ops ih =>
    obtain ⟨hturn, hop⟩ := attempt_moveEdit h op
    rw [moveEdits, attemptAll_append, hop, hturn, ih (h.attempt op)]
    rfl

/-- whatever is done to a new store, in whatever order, an edit waits only while a turn is in flight.
If every edit during a turn is moved behind its end, none waits, the store is otherwise the same in
the end, and the listeners are shown the same conversations on the way -/
theorem edits_moved (conversation : Conversation) (ops : List Operation) :
    let new : Store := { conversation }
    ((new.attemptAll ops).1.pendingEdit ≠ .null → (new.attemptAll ops).1.turnInFlight = true) ∧
      (new.attemptAll (moveEdits none ops)).1 =
        { (new.attemptAll ops).1 with pendingEdit := .null } ∧
      (new.attemptAll (moveEdits none ops)).2 = (new.attemptAll ops).2 := by
  intro new
  have hnew : new.HoldsBack := fun _ => rfl
  have hmoved : new.attemptAll (moveEdits none ops) =
    ((new.attemptAll ops).1.withoutEdit, (new.attemptAll ops).2) := attemptAll_moveEdits hnew ops
  refine ⟨fun hedit => ?_, ?_, ?_⟩
  · cases hflight : (new.attemptAll ops).1.turnInFlight with
    | true => rfl
    | false => exact absurd (hnew.attemptAll ops hflight) hedit
  · rw [hmoved]
    rfl
  · rw [hmoved]

/-- of two edits during a turn the second is left -/
example : moveEdits none [.beginTurn, .edit (.text "a"), .beginTurn, .edit (.text "b"), .endTurn] =
    [.beginTurn, .beginTurn, .endTurn, .dispatch (.setDocument (.text "b"))] := rfl

end Debate.Store
