import Debate.Fault

/-!
# Computations with a state, carried out

A computation on the disk, or one that draws ids, has a result or a fault, and leaves a state behind
in both cases.

* `carriedOut`                     a computation carried out from a state;
* `carriedOut_bind_ok`, `carriedOut_bind_error`   computations one after the other;
* `exists_of_carriedOut_bind`      what is known of a computation that goes well;
* `exists_of_bind_ok`, `of_bind_error`   results one after the other, without a state.
-/

namespace Debate

variable {τ α β : Type}

/-- a computation carried out from a state: its result, or its fault, and the state after it -/
def carriedOut (x : ExceptT Fault (StateM τ) α) (t : τ) : Except Fault α × τ :=
  (ExceptT.run x).run t

theorem carriedOut_get (t : τ) : carriedOut (get : ExceptT Fault (StateM τ) τ) t = (.ok t, t) := rfl

theorem carriedOut_set (t t' : τ) :
    carriedOut (set t' : ExceptT Fault (StateM τ) PUnit) t = (.ok ⟨⟩, t') := rfl

theorem carriedOut_lift (r : Except Fault α) (t : τ) :
    carriedOut (liftM r : ExceptT Fault (StateM τ) α) t = (r, t) := by
  cases r <;> rfl

theorem carriedOut_bind (x : ExceptT Fault (StateM τ) α) (f : α → ExceptT Fault (StateM τ) β)
    (t : τ) :
    carriedOut (x >>= f) t =
      match carriedOut x t with
      | (.ok a, t') => carriedOut (f a) t'
      | (.error e, t') => (.error e, t') := by
  simp only [carriedOut, ExceptT.run_bind, StateT.run_bind]
  rcases (ExceptT.run x).run t with ⟨_ | _, _⟩ <;> rfl

theorem carriedOut_bind_ok {x : ExceptT Fault (StateM τ) α} {t t' : τ} {a : α}
    (h : carriedOut x t = (.ok a, t')) (f : α → ExceptT Fault (StateM τ) β) :
    carriedOut (x >>= f) t = carriedOut (f a) t' := by
  rw [carriedOut_bind, h]

theorem carriedOut_bind_error {x : ExceptT Fault (StateM τ) α} {t t' : τ} {e : Fault}
    (h : carriedOut x t = (.error e, t')) (f : α → ExceptT Fault (StateM τ) β) :
    carriedOut (x >>= f) t = (.error e, t') := by
  rw [carriedOut_bind, h]

/-- a computation that goes well: each part of it did -/
theorem exists_of_carriedOut_bind {x : ExceptT Fault (StateM τ) α}
    {f : α → ExceptT Fault (StateM τ) β} {t t'' : τ} {b : β}
    (h : carriedOut (x >>= f) t = (.ok b, t'')) :
    ∃ a t', carriedOut x t = (.ok a, t') ∧ carriedOut (f a) t' = (.ok b, t'') := by
  rw [carriedOut_bind] at h
  rcases hx : carriedOut x t with ⟨e | a, t'⟩ <;> rw [hx] at h
  · cases h
  · exact ⟨a, t', rfl, h⟩

/-! ## results that may be faults -/

theorem bind_of_ok {x : Except Fault α} {f : α → Except Fault β} {a : α} (h : x = .ok a) :
    x >>= f = f a := by
  rw [h]
  rfl

theorem exists_of_bind_ok {x : Except Fault α} {f : α → Except Fault β} {b : β}
    (h : x >>= f = .ok b) : ∃ a, x = .ok a ∧ f a = .ok b := by
  cases x with
  | error e => cases h
  | ok a => exact ⟨a, rfl, h⟩

theorem of_bind_error {x : Except Fault α} {f : α → Except Fault β} {e : Fault}
    (h : x >>= f = .error e) : x = .error e ∨ ∃ a, x = .ok a ∧ f a = .error e := by
  cases x with
  | error e' =>
    cases h
    exact .inl rfl
  | ok a => exact .inr ⟨a, rfl, h⟩

end Debate
