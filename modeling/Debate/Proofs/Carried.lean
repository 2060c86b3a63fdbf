import Debate.Moderator.Command

/-!
# Steps carried out

A step of the moderator has a result, or a fault, and leaves a moderator behind in both cases.

* `Moderator.carry`     a step carried out: its result, and the moderator after it;
* `Moderator.carry_bind_ok`, `Moderator.carry_bind_error`   steps one after the other;
* `Passes`              a step never ends in a fault;
* `Keeps`               a relation that holds between the moderator before and after a step,
                        whatever the step's result; it is enough to show it for the parts of a step.
-/

namespace Debate

variable {σ α β : Type}

namespace Moderator

/-- a step carried out: its result, and the moderator after it -/
def carry (m : Moderator σ) (x : Moderating σ α) : Except Fault α × Moderator σ :=
  (ExceptT.run x).run m

theorem carry_pair (m : Moderator σ) (x : Moderating σ α) :
    m.carry x = ((m.carry x).1, (m.carry x).2) := rfl

theorem carry_pure (m : Moderator σ) (a : α) : m.carry (pure a) = (.ok a, m) := rfl

theorem carry_get (m : Moderator σ) : m.carry (get : Moderating σ _) = (.ok m, m) := rfl

theorem carry_modify (m : Moderator σ) (f : Moderator σ → Moderator σ) :
    m.carry (modify f : Moderating σ _) = (.ok ⟨⟩, f m) := rfl

theorem carry_attempt (m : Moderator σ) (x : Moderating σ α) :
    m.carry (attempt x) = (.ok (m.carry x).1, (m.carry x).2) := rfl

theorem carry_lift (m : Moderator σ) (r : Except Fault α) :
    m.carry (liftM r : Moderating σ α) = (r, m) := by
  cases r <;> rfl

theorem carry_raise (m : Moderator σ) (e : Option Fault) :
    m.carry (raise e) = (match e with | some e => .error e | none => .ok (), m) := by
  cases e <;> rfl

theorem carry_log (m : Moderator σ) (level : Level) (text : String) :
    m.carry (log level text) = (.ok (), m.record (.log level text)) := rfl

theorem carry_live (m : Moderator σ) (text : String) :
    m.carry (live text) = (.ok (), m.record (.liveAt m.supply.now text)) := rfl

theorem carry_newId (m : Moderator σ) :
    m.carry newId = (.ok m.supply.draw.1, { m with supply := m.supply.draw.2 }) := rfl

theorem carry_timestamp (m : Moderator σ) :
    m.carry timestamp = (.ok m.supply.timestamp, m) := rfl

theorem carry_bind (m : Moderator σ) (x : Moderating σ α) (f : α → Moderating σ β) :
    m.carry (x >>= f) =
      match m.carry x with
      | (.ok a, m') => m'.carry (f a)
      | (.error e, m') => (.error e, m') := by
  simp only [carry, ExceptT.run_bind, StateT.run_bind]
  rcases (ExceptT.run x).run m with ⟨_ | _, _⟩ <;> rfl

theorem carry_bind_ok {m m' : Moderator σ} {x : Moderating σ α} {a : α}
    (h : m.carry x = (.ok a, m')) (f : α → Moderating σ β) :
    m.carry (x >>= f) = m'.carry (f a) := by
  rw [carry_bind, h]

theorem carry_bind_error {m m' : Moderator σ} {x : Moderating σ α} {e : Fault}
    (h : m.carry x = (.error e, m')) (f : α → Moderating σ β) :
    m.carry (x >>= f) = (.error e, m') := by
  rw [carry_bind, h]

theorem carry_attempt_bind {m m' : Moderator σ} {x : Moderating σ α} {r : Except Fault α}
    (h : m.carry x = (r, m')) (f : Except Fault α → Moderating σ β) :
    m.carry (attempt x >>= f) = m'.carry (f r) := by
  rw [carry_bind_ok (carry_attempt m x), h]

/-- the token decides whether a check of it ends in a fault -/
theorem carry_checkToken (m : Moderator σ) :
    m.carry checkToken = (if m.isCancelled then .error .cancelled else .ok (), m) := by
  rw [checkToken, carry_bind_ok (carry_get m)]
  cases m.isCancelled <;> rfl

/-- a run without a token, or with a token that is cancelled, cannot be cancelled -/
theorem carry_cancel (m : Moderator σ) :
    m.carry cancel =
      if m.token = some false then
        (.ok true, { m.record (.log .info "Cancellation requested") with token := some true })
      else (.ok false, m) := by
  rw [cancel, carry_bind_ok (carry_get m)]
  rcases m.token with _ | _ | _ <;> rfl

/-- an operation on the store that can be carried out -/
theorem carry_performWith {m : Moderator σ} (announce : Moderating σ Unit) {op : Store.Operation}
    (h : m.store.refusal? op = none) :
    m.carry (performWith announce op) =
      let m' := { m with store := (m.store.perform op).1 }
      if (m.store.perform op).2 then m'.carry announce else (.ok (), m') := by
  rw [performWith, carry_bind_ok (carry_get m), h]
  exact apply_ite (carry { m with store := (m.store.perform op).1 }) _ _ _

end Moderator

/-! ## steps without a fault -/

/-- a step never ends in a fault -/
def Passes (x : Moderating σ α) : Prop := ∀ m : Moderator σ, ∃ a, (m.carry x).1 = .ok a

namespace Passes

open Moderator

variable {x : Moderating σ α}

theorem pure (a : α) : Passes (pure a : Moderating σ α) := fun _ => ⟨a, rfl⟩

theorem modify (f : Moderator σ → Moderator σ) : Passes (modify f : Moderating σ _) :=
  fun _ => ⟨⟨⟩, rfl⟩

theorem bind {f : α → Moderating σ β} (hx : Passes x) (hf : ∀ a, Passes (f a)) :
    Passes (x >>= f) := by
  intro m
  obtain ⟨a, ha⟩ := hx m
  rw [carry_bind]
  rcases hm : m.carry x with ⟨_ | b, m'⟩ <;> rw [hm] at ha
  · cases ha
  · exact hf b m'

/-- a step that never ends in a fault and has no other result than one -/
theorem carry_eq {x : Moderating σ PUnit} (h : Passes x) (m : Moderator σ) :
    m.carry x = (.ok ⟨⟩, (m.carry x).2) := by
  obtain ⟨_, ha⟩ := h m
  exact Prod.ext ha rfl

theorem forM {f : α → Moderating σ PUnit} (hf : ∀ a, Passes (f a)) (as : List α) :
    Passes (as.forM f) := by
  induction as with
  | nil => exact Passes.pure PUnit.unit
  | cons a as ih => exact Passes.bind (hf a) fun _ => ih

end Passes

/-! ## what a step keeps -/

/-- a relation between the moderator before and after a step, whatever its result -/
def Keeps (R : Moderator σ → Moderator σ → Prop) (x : Moderating σ α) : Prop :=
  ∀ m : Moderator σ, R m (m.carry x).2

namespace Keeps

open Moderator

variable {R : Moderator σ → Moderator σ → Prop} {x : Moderating σ α}

theorem pure (hr : ∀ m, R m m) (a : α) : Keeps R (pure a : Moderating σ α) := fun m => hr m

theorem throw (hr : ∀ m, R m m) (e : Fault) : Keeps R (throw e : Moderating σ α) := fun m => hr m

theorem get (hr : ∀ m, R m m) : Keeps R (get : Moderating σ _) := fun m => hr m

theorem lift (hr : ∀ m, R m m) (r : Except Fault α) : Keeps R (liftM r : Moderating σ α) := by
  intro m
  rw [carry_lift]
  exact hr m

theorem raise (hr : ∀ m, R m m) (e : Option Fault) : Keeps R (Moderator.raise e) := by
  intro m
  rw [carry_raise]
  exact hr m

theorem modify {f : Moderator σ → Moderator σ} (h : ∀ m, R m (f m)) :
    Keeps R (modify f : Moderating σ _) := fun m => h m

theorem attempt (h : Keeps R x) : Keeps R (attempt x) := fun m => h m

theorem bind (ht : ∀ m m' m'', R m m' → R m' m'' → R m m'') {f : α → Moderating σ β}
    (hx : Keeps R x) (hf : ∀ a, Keeps R (f a)) : Keeps R (x >>= f) := by
  intro m
  have h := hx m
  rw [carry_bind]
  rcases hr : m.carry x with ⟨_ | a, m'⟩ <;> rw [hr] at h
  · exact h
  · exact ht _ _ _ h (hf a m')

theorem ite {p : Prop} [Decidable p] {y : Moderating σ α} (hx : Keeps R x) (hy : Keeps R y) :
    Keeps R (if p then x else y) := by
  split <;> assumption

end Keeps

end Debate
