import Debate.Proofs.Accord

/-!
# What is assured while no listener fails

Much of what the moderator does rests on listeners that do not fail. A step assures something if it
holds after the step whenever the listeners are fine then; a listener that fails is never fine again, so
they were fine all the time. What is assured of a step is put together from its parts.

* `Assures`                   what holds after a step while the listeners are fine, and after a fault of it;
* `Assures.bind`, `Assures.attempt_bind`   one step after another;
* `Assures.sure_bind`         a step that ends in no fault comes first;
* `Aside`                     before and after a part of a step that shows nothing and changes no message;
* `Assures.aside_bind`        such a part comes first.
-/

namespace Debate

open Debate.Number

variable {σ α β : Type} {fine : σ → Prop} {P P' : Moderator σ → Prop} {x : Moderating σ α}
  {f : α → Moderating σ β}

/-! ## what is assured -/

/-- what holds of a result and the moderator that it leaves, or else of the moderator that a fault
leaves -/
def Upon (Q : α → Moderator σ → Prop) (E : Moderator σ → Prop) : Except Fault α → Moderator σ → Prop
  | .ok a, m => Q a m
  | .error _, m => E m

/-- the listeners are fine after a step only if they were so before it; and then, if something was the
case before, something is the case of its result and of the moderator after it, or of the moderator after
a fault -/
def Assures (fine : σ → Prop) (P : Moderator σ → Prop) (x : Moderating σ α)
    (Q : α → Moderator σ → Prop) (E : Moderator σ → Prop) : Prop :=
  ∀ m, fine (m.carry x).2.audience → fine m.audience ∧ (P m → Upon Q E (m.carry x).1 (m.carry x).2)

/-- what is the case of no moderator: a step that may end in no fault -/
def Never (_ : Moderator σ) : Prop := False

namespace Assures

open Moderator

variable {Q Q' : α → Moderator σ → Prop} {T : β → Moderator σ → Prop} {E F : Moderator σ → Prop}

theorem mono (h : Assures fine P x Q E) (hP : ∀ m, P' m → P m) (hQ : ∀ a m, Q a m → Q' a m)
    (hE : ∀ m, E m → F m) : Assures fine P' x Q' F := by
  refine fun m hfine => ⟨(h m hfine).1, fun hm => ?_⟩
  have hafter := (h m hfine).2 (hP m hm)
  generalize (m.carry x).1 = r at hafter ⊢
  cases r with
  | ok a => exact hQ a _ hafter
  | error e => exact hE _ hafter

theorem of_before (h : Assures fine P x Q E) (hP : ∀ m, P' m → P m) : Assures fine P' x Q E :=
  h.mono hP (fun _ _ => id) fun _ => id

theorem to_fault (h : Assures fine P x Q E) (hE : ∀ m, E m → F m) : Assures fine P x Q F :=
  h.mono (fun _ => id) (fun _ _ => id) hE

theorem pure {a : α} (h : ∀ m, P m → Q a m) : Assures fine P (pure a : Moderating σ α) Q E :=
  fun m hfine => ⟨hfine, h m⟩

theorem throw {e : Fault} (h : ∀ m, P m → E m) : Assures fine P (throw e : Moderating σ α) Q E :=
  fun m hfine => ⟨hfine, h m⟩

theorem bind (hx : Assures fine P x Q E) (hf : ∀ a, Assures fine (Q a) (f a) T E) :
    Assures fine P (x >>= f) T E := by
  intro m hfine
  rw [carry_bind] at hfine ⊢
  rcases hm : m.carry x with ⟨e | a, m'⟩ <;> rw [hm] at hfine
  · obtain ⟨hbefore, hx⟩ := hx m (hm ▸ hfine)
    rw [hm] at hx
    exact ⟨hbefore, hx⟩
  · obtain ⟨hbetween, hf⟩ := hf a m' hfine
    obtain ⟨hbefore, hx⟩ := hx m (hm ▸ hbetween)
    rw [hm] at hx
    exact ⟨hbefore, fun h => hf (hx h)⟩

/-- a step that ends in no fault, and one after it -/
theorem sure_bind (hx : Assures fine P x Q Never) (hf : ∀ a, Assures fine (Q a) (f a) T E) :
    Assures fine P (x >>= f) T E := (hx.to_fault fun _ => False.elim).bind hf

/-- a step whose fault is handed over, and one after it -/
theorem attempt_bind {f : Except Fault α → Moderating σ β} (hx : Assures fine P x Q F)
    (hf : ∀ a, Assures fine (Q a) (f (.ok a)) T E) (he : ∀ e, Assures fine F (f (.error e)) T E) :
    Assures fine P (attempt x >>= f) T E := by
  intro m hfine
  rw [carry_attempt_bind (carry_pair m x)] at hfine ⊢
  have hx := hx m
  rcases hm : m.carry x with ⟨e | a, m'⟩ <;> rw [hm] at hfine hx
  · obtain ⟨hbetween, he⟩ := he e m' hfine
    exact ⟨(hx hbetween).1, fun h => he ((hx hbetween).2 h)⟩
  · obtain ⟨hbetween, hf⟩ := hf a m' hfine
    exact ⟨(hx hbetween).1, fun h => hf ((hx hbetween).2 h)⟩

/-- a look at the moderator -/
theorem get_bind {f : Moderator σ → Moderating σ β}
    (hf : ∀ n, Assures fine (fun m => m = n ∧ P m) (f n) T E) :
    Assures fine P ((get : Moderating σ _) >>= f) T E := by
  intro m hfine
  rw [carry_bind_ok (carry_get m)] at hfine ⊢
  obtain ⟨hbefore, hf⟩ := hf m m hfine
  exact ⟨hbefore, fun h => hf ⟨rfl, h⟩⟩

theorem ok_bind {a : α} (hf : Assures fine P (f a) T E) :
    Assures fine P ((liftM (.ok a : Except Fault α) : Moderating σ α) >>= f) T E := hf

theorem error_bind {e : Fault} (he : ∀ m, P m → E m) :
    Assures fine P ((liftM (.error e : Except Fault α) : Moderating σ α) >>= f) T E := throw he

/-- a look at the moderator, after which it does not matter what was found -/
theorem look_bind {f : Moderator σ → Moderating σ β} (hf : ∀ n, Assures fine P (f n) T E) :
    Assures fine P ((get : Moderating σ _) >>= f) T E :=
  get_bind fun n => (hf n).of_before fun _ h => h.2

/-- a value, or a fault -/
theorem lift_bind {r : Except Fault α} (hf : ∀ a, Assures fine P (f a) T E) (he : ∀ m, P m → E m) :
    Assures fine P ((liftM r : Moderating σ α) >>= f) T E := by
  cases r with
  | error e => exact error_bind he
  | ok a => exact ok_bind (hf a)

/-- a change of the moderator that no listener sees -/
theorem update {g : Moderator σ → Moderator σ} {Q : PUnit → Moderator σ → Prop}
    (hg : ∀ m, (g m).audience = m.audience) (hQ : ∀ m, P m → Q ⟨⟩ (g m)) :
    Assures fine P (modify g : Moderating σ _) Q E := by
  intro m hfine
  rw [carry_modify m g] at hfine ⊢
  exact ⟨hg m ▸ hfine, hQ m⟩

theorem ite {p : Prop} [Decidable p] {y : Moderating σ α} (hx : p → Assures fine P x Q E)
    (hy : ¬ p → Assures fine P y Q E) : Assures fine P (if p then x else y) Q E := by
  split
  · exact hx ‹_›
  · exact hy ‹_›

/-- what is assured after a step, whether or not it ends in a fault -/
theorem after (h : Assures fine P x (fun _ => E) E) {m : Moderator σ}
    (hfine : fine (m.carry x).2.audience) : fine m.audience ∧ (P m → E (m.carry x).2) := by
  refine ⟨(h m hfine).1, fun hm => ?_⟩
  have hafter := (h m hfine).2 hm
  generalize (m.carry x).1 = r at hafter
  cases r <;> exact hafter

end Assures

/-! ## what shows nothing -/

/-- before and after a part of a step that shows nothing, and changes no message: it may draw ids and
write in the journal, but prints nothing -/
structure Aside (m m' : Moderator σ) : Prop where
  audience : m'.audience = m.audience
  messages : m'.messages = m.messages
  call : m'.call = m.call
  idOf : m'.supply.idOf = m.supply.idOf
  drawn : m.supply.drawn ≤ m'.supply.drawn
  screen : Journal.screen m'.journal = Journal.screen m.journal

namespace Aside

theorem refl (m : Moderator σ) : Aside m m := ⟨rfl, rfl, rfl, rfl, Nat.le_refl _, rfl⟩

theorem trans {m m' m'' : Moderator σ} (h : Aside m m') (h' : Aside m' m'') : Aside m m'' where
  audience := h'.audience.trans h.audience
  messages := h'.messages.trans h.messages
  call := h'.call.trans h.call
  idOf := h'.idOf.trans h.idOf
  drawn := Nat.le_trans h.drawn h'.drawn
  screen := h'.screen.trans h.screen

theorem bind (hx : Keeps Aside x) (hf : ∀ a, Keeps Aside (f a)) : Keeps Aside (x >>= f) :=
  Keeps.bind (fun _ _ _ h h' => h.trans h') hx hf

/-- a change of what is neither shown nor said -/
theorem elsewhere {m : Moderator σ} {settings : Settings} {clock : Double} {running : Bool}
    {token : Option Bool} {lastOutcome : Option Outcome} {failedStep : Option FailedStep}
    {waiting : List Waiter} {shown : Nat} {granted : List Granted} :
    Aside m { m with
      settings, clock, running, token, lastOutcome, failedStep, waiting, shown, granted } :=
  ⟨rfl, rfl, rfl, rfl, Nat.le_refl _, rfl⟩

end Aside

/-- something that does not depend on what a part of a step changes that shows nothing -/
def Steady (P : Moderator σ → Prop) : Prop := ∀ m m', Aside m m' → P m → P m'

namespace Moderator

theorem aside_entry (m : Moderator σ) {e : Entry} (he : Journal.screen [e] = []) :
    Aside m (m.record e) := by
  refine ⟨rfl, rfl, rfl, rfl, Nat.le_refl _, ?_⟩
  change Journal.screen (m.journal ++ [e]) = _
  rw [Journal.screen_append, he, List.append_nil]

theorem aside_log (level : Level) (text : String) : Keeps Aside (log (σ := σ) level text) :=
  fun m => aside_entry m rfl

theorem aside_live (text : String) : Keeps Aside (live (σ := σ) text) := fun m => aside_entry m rfl

theorem aside_newId : Keeps Aside (newId (σ := σ)) :=
  fun _ => ⟨rfl, rfl, rfl, rfl, Nat.le_succ _, rfl⟩

theorem aside_timestamp : Keeps Aside (timestamp (σ := σ)) := fun m => Aside.refl m

theorem aside_checkToken : Keeps Aside (checkToken (σ := σ)) := by
  intro m
  rw [carry_checkToken]
  exact Aside.refl m

theorem aside_cancel : Keeps Aside (cancel (σ := σ)) := by
  intro m
  rw [carry_cancel]
  split
  · have hlogged := aside_entry m (e := .log .info "Cancellation requested") rfl
    exact ⟨rfl, rfl, rfl, rfl, Nat.le_refl _, hlogged.screen⟩
  · exact Aside.refl m

theorem aside_remarks (level : Level) (remarks : List String) :
    Keeps Aside (σ := σ) (forIn remarks PUnit.unit fun remark _ => do
      log level remark
      pure (ForInStep.yield PUnit.unit)) := by
  induction remarks with
  | nil => exact Keeps.pure Aside.refl _
  | cons remark remarks ih =>
    rw [List.forIn_cons]
    refine Aside.bind (Aside.bind (aside_log _ _) fun _ => Keeps.pure Aside.refl _) ?_
    rintro (b | b)
    · exact Keeps.pure Aside.refl _
    · exact ih

theorem aside_editedNotepad (c : Call) (edits : List Notepad.Edit) :
    Keeps Aside (editedNotepad (σ := σ) c edits) := by
  refine Aside.bind (aside_remarks .warning _) fun _ => ?_
  refine Aside.bind (Keeps.lift Aside.refl _) fun document => ?_
  cases edits.isEmpty with
  | true => exact Keeps.pure Aside.refl _
  | false => exact Aside.bind (aside_log _ _) fun _ => Keeps.pure Aside.refl _

theorem aside_chooseVoice (s : Surroundings σ) : Keeps Aside (chooseVoice s) := by
  refine Aside.bind (Keeps.get Aside.refl) fun m => ?_
  refine Aside.bind (Keeps.lift Aside.refl _) fun tooFew => ?_
  refine Keeps.ite (Keeps.throw Aside.refl _) ?_
  cases s.voice with
  | some name => exact Keeps.pure Aside.refl _
  | none =>
    refine Aside.bind (aside_remarks .warning _) fun _ => ?_
    exact Aside.bind (Keeps.lift Aside.refl _) fun _ => Keeps.pure Aside.refl _

theorem aside_restore (step : Option FailedStep) : Keeps Aside (restore (σ := σ) step) := by
  have hset (f : Option FailedStep) :
      Keeps Aside (modify fun m => { m with failedStep := f } : Moderating σ _) :=
    Keeps.modify fun _ => .elsewhere
  cases step with
  | none => exact hset none
  | some f =>
    refine Aside.bind (Keeps.get Aside.refl) fun m => ?_
    exact Keeps.ite (hset _) (Aside.bind (aside_log _ _) fun _ => hset _)

/-! ### commands while a run is under way -/

theorem aside_switch (s : Surroundings σ) {m : Moderator σ} (hrun : m.running = true)
    (c : Conversation) : Aside m (m.carry (switch s c)).2 := by
  have hok : m.carry cancel = (.ok (decide (m.token = some false)), (m.carry cancel).2) := by
    rw [carry_cancel]
    split <;> simp_all
  have hrunning : (m.carry cancel).2.running = true := (beside_cancel m).running.trans hrun
  rw [switch, carry_bind_ok hok, carry_bind_ok (carry_get _), hrunning, if_pos rfl]
  exact (aside_cancel m).trans .elsewhere

/-- whatever a run is told beside it, except for an edit, shows nothing -/
theorem aside_told (s : Surroundings σ) {m : Moderator σ} (hrun : m.running = true) {c : Command}
    (hc : c.isBeside = true) (hedit : ∀ v, c ≠ .edit v) : Aside m (m.step s (.told c)) := by
  simp only [step]
  cases c with
  | restore _ => cases hc
  | load _ => cases hc
  | configure _ _ => cases hc
  | edit v => exact absurd rfl (hedit v)
  | submit text image =>
    have hlogged := aside_log (σ := σ) .warning "A discussion is already running, ignoring new request" m
    have hsubmit : m.carry (submit s text image) = (.ok (some .running),
        m.record (.log .warning "A discussion is already running, ignoring new request")) := by
      rw [submit, carry_bind_ok (carry_get m), hrun]
      rfl
    rw [obey, carry_bind_ok hsubmit]
    exact hlogged
  | retry =>
    have hretry : ∃ e, Journal.screen [e] = [] ∧
        m.carry (retry s) = (.ok (some false), m.record e) := by
      rw [retry, carry_bind_ok (carry_get m)]
      cases m.failedStep with
      | none => exact ⟨_, rfl, rfl⟩
      | some step =>
        simp only [hrun, if_true]
        exact ⟨_, rfl, rfl⟩
    obtain ⟨e, he, hretry⟩ := hretry
    rw [obey, carry_bind_ok hretry]
    exact aside_entry m he
  | cancel =>
    rw [obey, snd_carry_map _ _ _ fun _ _ => rfl]
    exact aside_cancel m
  | switch c =>
    rw [obey, snd_carry_map _ _ _ fun _ _ => rfl]
    exact aside_switch s hrun c
  | startNew document =>
    have hnew : ∃ c, m.carry (newConversation document) =
      (.ok c, { m with supply := m.supply.draw.2 }) := ⟨_, rfl⟩
    obtain ⟨c, hc⟩ := hnew
    have hdrawn : Aside m { m with supply := m.supply.draw.2 } :=
      ⟨rfl, rfl, rfl, rfl, Nat.le_succ _, rfl⟩
    rw [obey, carry_bind_ok hc, snd_carry_map _ _ _ fun _ _ => rfl]
    exact hdrawn.trans (aside_switch s (m := { m with supply := m.supply.draw.2 }) hrun c)
  | look => exact Aside.refl m

end Moderator

namespace Assures

open Moderator

variable {T : β → Moderator σ → Prop} {E : Moderator σ → Prop}

/-- a part that shows nothing -/
theorem aside (hx : Keeps Aside x) (hP : Steady P) : Assures fine P x (fun _ => P) P := by
  refine fun m hfine => ⟨(hx m).audience ▸ hfine, fun h => ?_⟩
  have hafter := hP m _ (hx m) h
  generalize (m.carry x).1 = r
  cases r <;> exact hafter

/-- a part that shows nothing, and never ends in a fault -/
theorem passing (hx : Keeps Aside x) (hpass : Passes x) (hP : Steady P) :
    Assures fine P x (fun _ => P) Never := by
  refine fun m hfine => ⟨(hx m).audience ▸ hfine, fun h => ?_⟩
  obtain ⟨a, ha⟩ := hpass m
  rw [ha]
  exact hP m _ (hx m) h

/-- a part that shows nothing comes first, and may end in a fault -/
theorem aside_bind (hx : Keeps Aside x) (hP : Steady P) (hf : ∀ a, Assures fine P (f a) T E)
    (hE : ∀ m, P m → E m) : Assures fine P (x >>= f) T E := ((aside hx hP).to_fault hE).bind hf

theorem change_bind {g : Moderator σ → Moderator σ} {f : PUnit → Moderating σ β} (hP : Steady P)
    (hg : ∀ m, Aside m (g m)) (hf : ∀ u, Assures fine P (f u) T E) :
    Assures fine P ((modify g : Moderating σ _) >>= f) T E :=
  (passing (Keeps.modify hg) (Passes.modify g) hP).sure_bind hf

theorem log_bind {f : PUnit → Moderating σ β} {level : Level} {text : String} (hP : Steady P)
    (hf : ∀ u, Assures fine P (f u) T E) : Assures fine P (log level text >>= f) T E :=
  (passing (aside_log level text) (Passes.modify _) hP).sure_bind hf

theorem live_bind {f : PUnit → Moderating σ β} {text : String} (hP : Steady P)
    (hf : ∀ u, Assures fine P (f u) T E) : Assures fine P (live text >>= f) T E :=
  (passing (aside_live text) (Passes.modify _) hP).sure_bind hf

theorem timestamp_bind {f : String → Moderating σ β} (hP : Steady P)
    (hf : ∀ now, Assures fine P (f now) T E) : Assures fine P (timestamp >>= f) T E :=
  (passing aside_timestamp (fun _ => ⟨_, rfl⟩) hP).sure_bind hf

theorem remarks_bind {f : PUnit → Moderating σ β} {level : Level} {remarks : List String}
    (hP : Steady P) (hf : ∀ u, Assures fine P (f u) T E) :
    Assures fine P ((forIn remarks PUnit.unit fun remark _ => do
      log level remark
      Pure.pure (ForInStep.yield PUnit.unit)) >>= f) T E := by
  refine (passing (aside_remarks level remarks) (fun m => ?_) hP).sure_bind hf
  obtain ⟨j, hj⟩ := carry_remarks level remarks m
  exact ⟨_, congrArg Prod.fst hj⟩

end Assures

end Debate
