import Debate.Proofs.Deferring
import Mathlib.Data.List.Induction

/-!
# Listeners that come and go

Whoever subscribes gets a remover. A remover knows its listener and not its subscription: called again, it
takes away another subscription of the same listener, if there is one. As long as that does not happen,
a listener is called as often as it has subscriptions whose remover was not called yet.

* `Assembly`                a store, those who listen to it, and their removers;
* `Deed`                    what is done to them: subscriptions, removers that are called, operations;
* `Assembly.called`         who is called during a deed, in order;
* `ledger`, `standing`      all subscriptions, and how many of a listener are left;
* `IsSparing`               no remover is called again while its listener has a subscription left;
* `isBooked_after`          what every sparing run keeps;
* `called_standing`         how often a listener is called then.
-/

namespace Debate

/-- a store with those who listen to it -/
structure Assembly (α : Type) where
  store : Store
  roster : Roster α := {}
  /-- the listeners that the removers know, in the order of the subscriptions -/
  subscribed : List α := []
  deriving DecidableEq

/-- what is done to a store and its listeners -/
inductive Deed (α : Type) where
  | subscribe (x : α)
  /-- the remover of a subscription is called; subscriptions are numbered in their order -/
  | remove (number : Nat)
  /-- an operation on the store; the call of a listener may fail then, and no one is called after it -/
  | operate (op : Store.Operation) (failing : Option Nat)

namespace Assembly

variable {α : Type} [DecidableEq α]

/-- what is left after a deed -/
def next (a : Assembly α) : Deed α → Assembly α
  | .subscribe x => { a with roster := a.roster.subscribe x, subscribed := a.subscribed ++ [x] }
  | .remove number =>
    match a.subscribed[number]? with
    | some x => { a with roster := a.roster.unsubscribe x }
    | none => a
  | .operate op _ => { a with store := (a.store.attempt op).1 }

/-- who is called during a deed, in order: everybody on the roster if a conversation is shown, or all up
to the call that fails -/
def called (a : Assembly α) : Deed α → List α
  | .operate op failing =>
    if (a.store.attempt op).2 = [] then []
    else
      match failing with
      | none => a.roster.listeners
      | some n => a.roster.listeners.take (n + 1)
  | .subscribe _ | .remove _ => []

/-- what is left after deeds, in order -/
def after (a : Assembly α) (deeds : List (Deed α)) : Assembly α := deeds.foldl next a

theorem after_concat (a : Assembly α) (deeds : List (Deed α)) (d : Deed α) :
    a.after (deeds ++ [d]) = (a.after deeds).next d := by
  rw [after, List.foldl_append]
  rfl

end Assembly

/-! ## subscriptions that are left -/

namespace Deed

variable {α : Type}

/-- subscriptions after a deed: who subscribed, and whether the remover was not called yet -/
def enter (subs : List (α × Bool)) : Deed α → List (α × Bool)
  | .subscribe x => subs ++ [(x, true)]
  | .remove number =>
    match subs[number]? with
    | some s => subs.set number (s.1, false)
    | none => subs
  | .operate _ _ => subs

/-- all subscriptions that deeds made, in order -/
def ledger (deeds : List (Deed α)) : List (α × Bool) := deeds.foldl enter []

/-- how many subscriptions of a listener are left: those whose remover was not called yet -/
def standing [DecidableEq α] (deeds : List (Deed α)) (x : α) : Nat := (ledger deeds).count (x, true)

/-- no remover of a listener is called again while the listener has a subscription left -/
def IsSparing [DecidableEq α] (x : α) (deeds : List (Deed α)) : Prop :=
  ∀ before number rest, deeds = before ++ .remove number :: rest →
    (ledger before)[number]? = some (x, false) → standing before x = 0

theorem ledger_concat (deeds : List (Deed α)) (d : Deed α) :
    ledger (deeds ++ [d]) = enter (ledger deeds) d := by
  rw [ledger, List.foldl_append]
  rfl

theorem IsSparing.of_append [DecidableEq α] {x : α} {deeds more : List (Deed α)}
    (h : IsSparing x (deeds ++ more)) : IsSparing x deeds := by
  intro before number rest hsplit
  refine h before number (rest ++ more) ?_
  rw [hsplit, List.append_assoc, List.cons_append]

theorem IsSparing.nil [DecidableEq α] (x : α) : IsSparing x [] := by
  intro before number rest hsplit
  exact absurd hsplit.symm (List.append_ne_nil_of_right_ne_nil _ (List.cons_ne_nil _ _))

/-- one more deed spares a listener if it is not a remover called again too early -/
theorem IsSparing.concat [DecidableEq α] {x : α} {deeds : List (Deed α)} (h : IsSparing x deeds)
    {d : Deed α} (hd : ∀ number, d = .remove number →
      (ledger deeds)[number]? = some (x, false) → standing deeds x = 0) :
    IsSparing x (deeds ++ [d]) := by
  intro before number rest hsplit
  -- the remover is the last deed, or one of those before
  rcases List.eq_nil_or_concat rest with rfl | ⟨rest, e, rfl⟩
  · obtain ⟨rfl, hlast⟩ := List.append_inj' hsplit rfl
    exact hd number (List.singleton_inj.mp hlast)
  · rw [List.concat_eq_append, ← List.cons_append, ← List.append_assoc] at hsplit
    obtain ⟨hdeeds, -⟩ := List.append_inj' hsplit rfl
    exact h before number rest hdeeds

end Deed

/-! ## what deeds keep -/

open Deed

variable {α : Type} [DecidableEq α]

/-- the removers are those of the subscriptions, and a listener is on the roster as often as it has
subscriptions left -/
structure IsBooked (x : α) (subs : List (α × Bool)) (a : Assembly α) : Prop where
  subscribed : a.subscribed = subs.map (·.1)
  calls : a.roster.calls x = subs.count (x, true)

namespace IsBooked

variable {x : α} {subs : List (α × Bool)} {a : Assembly α}

theorem subscribe (h : IsBooked x subs a) (y : α) :
    IsBooked x (enter subs (.subscribe y)) (a.next (.subscribe y)) := by
  constructor
  · show a.subscribed ++ [y] = (subs ++ [(y, true)]).map (·.1)
    rw [h.subscribed, List.map_append, List.map_singleton]
  · show (a.roster.subscribe y).calls x = (subs ++ [(y, true)]).count (x, true)
    rw [Roster.calls_subscribe, h.calls, List.count_append, List.count_singleton]
    by_cases hy : y = x <;> simp [hy]

/-- a remover takes its listener off the roster once, and its subscription from those that are left; if it
was called before, there is nothing to take off -/
theorem remove (h : IsBooked x subs a) (number : Nat)
    (hspared : subs[number]? = some (x, false) → subs.count (x, true) = 0) :
    IsBooked x (enter subs (.remove number)) (a.next (.remove number)) := by
  have hknown : a.subscribed[number]? = subs[number]?.map (·.1) := by
    rw [h.subscribed, List.getElem?_map]
  cases hsub : subs[number]? with
  | none =>
    have hnext : a.next (.remove number) = a := by simp only [Assembly.next, hknown, hsub, Option.map_none]
    have henter : enter subs (.remove number) = subs := by simp only [enter, hsub]
    rw [hnext, henter]
    exact h
  | some s =>
    obtain ⟨y, left⟩ := s
    obtain ⟨hlt, hget⟩ := List.getElem?_eq_some_iff.mp hsub
    have hnext : a.next (.remove number) = { a with roster := a.roster.unsubscribe y } := by
      simp only [Assembly.next, hknown, hsub, Option.map_some]
    have henter : enter subs (.remove number) = subs.set number (y, false) := by
      simp only [enter, hsub]
    rw [hnext, henter]
    constructor
    · have hself : (subs.map (·.1)).set number y = subs.map (·.1) := by
        have hlt' : number < (subs.map (·.1)).length := by rwa [List.length_map]
        have hy : (subs.map (·.1))[number] = y := by rw [List.getElem_map, hget]
        rw [← hy, List.set_getElem_self]
      show a.subscribed = (subs.set number (y, false)).map (·.1)
      rw [List.map_set, hself, h.subscribed]
    · show (a.roster.unsubscribe y).calls x = (subs.set number (y, false)).count (x, true)
      rw [Roster.calls_unsubscribe, h.calls, List.count_set hlt, hget]
      by_cases hy : y = x
      · subst hy
        cases left with
        | true => simp
        | false => simp [hspared hsub]
      · simp [hy]

theorem operate (h : IsBooked x subs a) (op : Store.Operation) (failing : Option Nat) :
    IsBooked x (enter subs (.operate op failing)) (a.next (.operate op failing)) :=
  ⟨h.subscribed, h.calls⟩

/-- a listener that has no subscription left cannot be taken off the roster -/
theorem next_remove_spent (h : IsBooked x subs a) {number : Nat}
    (hsub : subs[number]? = some (x, false)) (hnone : subs.count (x, true) = 0) :
    a.next (.remove number) = a := by
  have hknown : a.subscribed[number]? = some x := by
    rw [h.subscribed, List.getElem?_map, hsub]
    rfl
  have habsent : x ∉ a.roster.listeners := by
    rw [← List.count_eq_zero]
    exact h.calls.trans hnone
  have hroster : a.roster.unsubscribe x = a.roster := by
    rw [Roster.unsubscribe, List.erase_of_not_mem habsent]
  simp only [Assembly.next, hknown, hroster]

end IsBooked

/-- every run of deeds in which no remover is called again too early keeps the roster and the
subscriptions together -/
theorem isBooked_after {x : α} {deeds : List (Deed α)} (h : IsSparing x deeds) (s : Store) :
    IsBooked x (ledger deeds) (Assembly.after { store := s } deeds) := by
  induction deeds using List.reverseRecOn with
  | nil => exact ⟨rfl, rfl⟩
  | append_singleton deeds d ih =>
    have hbooked := ih h.of_append
    rw [ledger_concat, Assembly.after_concat]
    cases d with
    | subscribe y => exact hbooked.subscribe y
    | remove number => exact hbooked.remove number (h deeds number [] rfl)
    | operate op failing => exact hbooked.operate op failing

/-- whatever is done to a store and its listeners: while no remover of a listener is called again as long as
the listener has a subscription left, an operation that is carried out and shown, such as any change of
the conversation, calls the listener as often as it has subscriptions whose remover was not called yet,
if no call fails; and a remover that is called again does nothing -/
theorem called_standing {x : α} {deeds : List (Deed α)} (h : IsSparing x deeds) (s : Store) :
    (∀ before op rest, deeds = before ++ .operate op none :: rest →
      let a := Assembly.after { store := s } before
      a.store.refusal? op = none → (a.store.perform op).2 = true →
        (a.called (.operate op none)).count x = standing before x) ∧
    ∀ before number rest, deeds = before ++ .remove number :: rest →
      (ledger before)[number]? = some (x, false) →
        Assembly.after { store := s } (before ++ [.remove number]) =
          Assembly.after { store := s } before := by
  constructor
  · intro before op rest hsplit a hrefused hshown
    have hbooked := isBooked_after (hsplit ▸ h).of_append s
    have hall : a.called (.operate op none) = a.roster.listeners := by
      simp [Assembly.called, Store.attempt_of_refusal hrefused, hshown]
    rw [hall]
    exact hbooked.calls
  · intro before number rest hsplit hsub
    have hbooked := isBooked_after (hsplit ▸ h).of_append s
    rw [Assembly.after_concat]
    exact hbooked.next_remove_spent hsub (h before number rest hsplit hsub)

/-- a listener that subscribed twice is called once after one of its removers was called, and not at
all when both were called; then a remover may be called again -/
theorem called_standing_twice :
    let s : Store := { conversation := { id := .text "c", createdAt := .text "" } }
    let shown : Deed String := .operate (.dispatch (.setDocument (.text "x"))) none
    let deeds : List (Deed String) :=
      [.subscribe "a", .subscribe "a", .remove 1, shown, .remove 0, shown, .remove 1]
    IsSparing "a" deeds ∧
      ((Assembly.after { store := s } (deeds.take 3)).called shown).count "a" = 1 ∧
      Assembly.after { store := s } deeds = Assembly.after { store := s } (deeds.take 6) := by
  intro s shown deeds
  have hsparing : IsSparing "a" deeds := by
    refine ((((((((IsSparing.nil "a").concat (d := .subscribe "a") nofun).concat
      (d := .subscribe "a") nofun).concat (d := .remove 1) ?_).concat (d := shown) nofun).concat
      (d := .remove 0) ?_).concat (d := shown) nofun).concat (d := .remove 1) ?_)
    all_goals
      rintro _ ⟨⟩ hspent
      revert hspent
      decide
  have hall := called_standing hsparing s
  exact ⟨hsparing, hall.1 (deeds.take 3) _ _ rfl rfl rfl, hall.2 (deeds.take 6) 1 [] rfl (by decide)⟩

/-- a listener is not called by a change that is refused, nor after a call that fails; and a remover that
is called again takes away another subscription of its listener -/
theorem not_called_standing :
    let new : Assembly String :=
      { store := { conversation := { id := .text "c", createdAt := .text "" } } }
    let shown (failing : Option Nat) : Deed String :=
      .operate (.dispatch (.setDocument (.text "x"))) failing
    let refused : Deed String := .operate (.dispatch (.append
      { id := .text "m", sender := .user, text := .int 5, purpose := .userInput, timestamp := .text "" })) none
    ((new.after [.subscribe "a"]).called refused).count "a" ≠ standing [.subscribe "a"] "a" ∧
      ((new.after [.subscribe "b", .subscribe "a"]).called (shown (some 0))).count "a" ≠
        standing [.subscribe "b", .subscribe "a"] "a" ∧
      ((new.after [.subscribe "a", .subscribe "a", .remove 1, .remove 1]).called (shown none)).count "a" ≠
        standing [.subscribe "a", .subscribe "a", .remove 1, .remove 1] "a" ∧
      new.after [.subscribe "a", .subscribe "a", .remove 1, .remove 1] ≠
        new.after [.subscribe "a", .subscribe "a", .remove 1] := by
  intro new shown refused
  decide

end Debate
