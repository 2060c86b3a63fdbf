import Debate.Proofs.Turns

/-!
# What happens to the moderator

The moderator never waits in the middle of a step: it is told something, a reply arrives, or the turn
of a conversation that waits has come. So a history of the moderator is a list of events. While a
reply is waited for, the user and other tasks may tell the moderator what they like; that only
changes what they may change.

* `Event`                  what happens to the moderator;
* `Event.isBeside`         an event that may come at any time while a reply is waited for;
* `Moderator.step`         the moderator after an event;
* `Moderator.during`       the moderator after events, up to the end of its run;
* `Moderator.endings`      how the turns of a run ended, in order;
* `lastEdit`               the last edit among events;
* `Beside`                 what can differ after events beside a run.
-/

namespace Debate

open Debate.Number

variable {σ : Type}

/-- what happens to the moderator -/
inductive Event where
  /-- the moderator is told something -/
  | told (c : Command)
  /-- the request of the call at hand comes to its end -/
  | replied (reply : Except Fault Value)
  /-- the turn of the first conversation that waits has come -/
  | attached
  /-- time passes -/
  | passed (now : Instant) (clock : Double)

/-- what a user or another task may tell the moderator at any time -/
def Command.isBeside : Command → Bool
  | .edit (.text _) => true
  | .edit _ | .restore _ | .load _ | .configure _ _ => false
  | .submit _ _ | .retry | .cancel | .switch _ | .startNew _ | .look => true

/-- an event that may come at any time while a reply is waited for -/
def Event.isBeside : Event → Bool
  | .told c => c.isBeside
  | .passed _ _ => true
  | .replied _ | .attached => false

/-- an event of a run: its reply, or something beside it -/
def Event.isOfRun : Event → Bool
  | .replied _ => true
  | e => e.isBeside

/-- the request of the call at hand comes to its end -/
def Event.isReply : Event → Bool
  | .replied _ => true
  | _ => false

/-- the text of an edit -/
def Event.edit? : Event → Option Value
  | .told (.edit content) => some content
  | _ => none

/-- edits that may come in at any time are texts -/
theorem Event.text_of_edit? {e : Event} (he : e.isBeside = true) {v : Value}
    (h : e.edit? = some v) : ∃ t, v = .text t := by
  cases e with
  | told c =>
    cases c with
    | edit content =>
      cases content with
      | text t => exact ⟨t, (Option.some.inj h).symm⟩
      | _ => cases he
    | _ => cases h
  | _ => cases h

/-- the last edit among events -/
def lastEdit (es : List Event) : Option Value := (es.filterMap Event.edit?).getLast?

theorem lastEdit_cons (e : Event) (es : List Event) :
    lastEdit (e :: es) = (lastEdit es <|> e.edit?) := by
  unfold lastEdit
  cases he : e.edit? with
  | none => simp [he]
  | some v =>
    rw [List.filterMap_cons_some he]
    cases h : (es.filterMap Event.edit?).getLast? <;> simp [List.getLast?_cons, h]

theorem text_of_lastEdit {es : List Event} (hes : ∀ e ∈ es, e.isBeside = true) {v : Value}
    (h : lastEdit es = some v) : ∃ t, v = .text t := by
  obtain ⟨e, he, hedit⟩ := List.mem_filterMap.mp (List.mem_of_getLast? h)
  exact Event.text_of_edit? (hes e he) hedit

namespace Moderator

/-- the moderator after an event -/
def step (s : Surroundings σ) (m : Moderator σ) : Event → Moderator σ
  | .told c => (m.carry (obey s c)).2
  | .replied reply => (m.carry (resume s reply)).2
  | .attached => (m.carry (attach s)).2
  | .passed now clock => { m with supply := { m.supply with now }, clock }

/-- the moderator after events, up to the end of the run that is under way -/
def during (s : Surroundings σ) : Moderator σ → List Event → Moderator σ
  | m, [] => m
  | m, e :: es => if m.running then during s (m.step s e) es else m

/-- how the turn at hand ends with an event, if the event is its reply -/
def ending? (m : Moderator σ) : Event → Option (Except Fault Turn.Result)
  | .replied reply => m.call.map fun c => c.ending m.clock m.isCancelled reply
  | _ => none

/-- how the turns of the run that is under way ended, in order -/
def endings (s : Surroundings σ) : Moderator σ → List Event → List (Except Fault Turn.Result)
  | _, [] => []
  | m, e :: es =>
    if m.running then (m.ending? e).toList ++ endings s (m.step s e) es else []

theorem during_nil (s : Surroundings σ) (m : Moderator σ) : m.during s [] = m := rfl

theorem during_of_idle (s : Surroundings σ) {m : Moderator σ} (h : m.running = false)
    (es : List Event) : m.during s es = m := by
  cases es with
  | nil => rfl
  | cons e es => rw [during, h, if_neg Bool.false_ne_true]

theorem during_cons (s : Surroundings σ) {m : Moderator σ} (h : m.running = true) (e : Event)
    (es : List Event) : m.during s (e :: es) = (m.step s e).during s es := by
  rw [during, if_pos h]

theorem during_append (s : Surroundings σ) (m : Moderator σ) (es es' : List Event) :
    m.during s (es ++ es') = (m.during s es).during s es' := by
  induction es generalizing m with
  | nil => rfl
  | cons e es ih =>
    cases h : m.running with
    | false => rw [during_of_idle s h, during_of_idle s h, during_of_idle s h]
    | true => rw [List.cons_append, during_cons s h, during_cons s h, ih]

/-- what a run that waits keeps with every event beside it, it keeps with all of them -/
theorem during_keeps (s : Surroundings σ) {P : Moderator σ → Prop}
    (hrun : ∀ m, P m → m.running = true)
    (hstep : ∀ m e, P m → e.isBeside = true → P (m.step s e)) {m : Moderator σ} (h : P m)
    {es : List Event} (hes : ∀ e ∈ es, e.isBeside = true) : P (m.during s es) := by
  induction es generalizing m with
  | nil => exact h
  | cons e es ih =>
    rw [during_cons s (hrun m h)]
    exact ih (hstep m e h (hes e List.mem_cons_self)) fun x hx => hes x (List.mem_cons_of_mem e hx)

theorem endings_of_idle (s : Surroundings σ) {m : Moderator σ} (h : m.running = false)
    (es : List Event) : m.endings s es = [] := by
  cases es with
  | nil => rfl
  | cons e es => rw [endings, h, if_neg Bool.false_ne_true]

theorem endings_cons (s : Surroundings σ) {m : Moderator σ} (h : m.running = true) (e : Event)
    (es : List Event) :
    m.endings s (e :: es) = (m.ending? e).toList ++ (m.step s e).endings s es := by
  rw [endings, if_pos h]

end Moderator

/-! ## beside a run -/

/-- the moderator before and after events beside a run, while a turn is in flight -/
structure Beside (m m' : Moderator σ) : Prop where
  same : m' = { m with
    supply := m'.supply, clock := m'.clock, token := m'.token, waiting := m'.waiting
    journal := m'.journal, store := m'.store }
  store : m'.store = { m.store with pendingEdit := m'.store.pendingEdit }
  idOf : m'.supply.idOf = m.supply.idOf
  drawn : m.supply.drawn ≤ m'.supply.drawn
  token : m'.token = m.token ∨ m.token = some false ∧ m'.token = some true

namespace Beside

variable {m m' m'' : Moderator σ}

theorem refl (m : Moderator σ) : Beside m m := ⟨rfl, rfl, rfl, Nat.le_refl _, .inl rfl⟩

theorem trans (h : Beside m m') (h' : Beside m' m'') : Beside m m'' := by
  constructor
  · rw [h'.same, h.same]
  · rw [h'.store, h.store]
  · rw [h'.idOf, h.idOf]
  · exact Nat.le_trans h.drawn h'.drawn
  · rcases h'.token with ht' | ⟨ha, hb⟩
    · rw [ht']
      exact h.token
    · rcases h.token with ht | ⟨-, hb'⟩
      · exact .inr ⟨ht ▸ ha, hb⟩
      · rw [hb'] at ha
        cases ha

/-- a run keeps its token -/
theorem token_ne_none (h : Beside m m') (ht : m.token ≠ none) : m'.token ≠ none := by
  rcases h.token with ht' | ⟨-, ht'⟩
  · rw [ht']
    exact ht
  · rw [ht']
    exact Option.some_ne_none _

theorem running (h : Beside m m') : m'.running = m.running := (congrArg Moderator.running h.same :)

theorem call (h : Beside m m') : m'.call = m.call := (congrArg Moderator.call h.same :)

theorem settings (h : Beside m m') : m'.settings = m.settings :=
  (congrArg Moderator.settings h.same :)

theorem failedStep (h : Beside m m') : m'.failedStep = m.failedStep :=
  (congrArg Moderator.failedStep h.same :)

theorem conversation (h : Beside m m') : m'.store.conversation = m.store.conversation :=
  (congrArg Store.conversation h.store :)

theorem turnInFlight (h : Beside m m') : m'.store.turnInFlight = m.store.turnInFlight :=
  (congrArg Store.turnInFlight h.store :)

end Beside

namespace Moderator

variable {m : Moderator σ}

/-! ### commands while a run is under way -/

theorem carry_submit_running (s : Surroundings σ) (hrun : m.running = true) (text image : Value) :
    ∃ j, m.carry (submit s text image) = (.ok (some .running), m.withJournal j) := by
  rw [submit, carry_bind_ok (carry_get m), hrun, if_pos rfl]
  exact ⟨_, rfl⟩

theorem carry_retry_running (s : Surroundings σ) (hrun : m.running = true) :
    ∃ j, m.carry (retry s) = (.ok (some false), m.withJournal j) := by
  rw [retry, carry_bind_ok (carry_get m)]
  cases hstep : m.failedStep with
  | none => exact ⟨_, rfl⟩
  | some step =>
    simp only [hrun, if_true]
    exact ⟨_, rfl⟩

theorem beside_withJournal (m : Moderator σ) (j : List Entry) : Beside m (m.withJournal j) :=
  ⟨rfl, rfl, rfl, Nat.le_refl _, .inl rfl⟩

theorem beside_cancel (m : Moderator σ) : Beside m (m.carry cancel).2 := by
  rw [carry_cancel]
  split
  · rename_i ht
    exact ⟨rfl, rfl, rfl, Nat.le_refl _, .inr ⟨ht, rfl⟩⟩
  · exact Beside.refl m

theorem beside_switch (s : Surroundings σ) (hrun : m.running = true) (c : Conversation) :
    Beside m (m.carry (switch s c)).2 ∧
      (m.carry (switch s c)).2.store.pendingEdit = m.store.pendingEdit := by
  have hcancel := beside_cancel m
  have hedit : (m.carry cancel).2.store = m.store := by
    rw [carry_cancel]
    split <;> rfl
  have hok : m.carry cancel = (.ok (decide (m.token = some false)), (m.carry cancel).2) := by
    rw [carry_cancel]
    split <;> simp_all
  rw [switch, carry_bind_ok hok, carry_bind_ok (carry_get _), hcancel.running, hrun, if_pos rfl]
  constructor
  · exact hcancel.trans ⟨rfl, rfl, rfl, Nat.le_refl _, .inl rfl⟩
  · exact congrArg Store.pendingEdit hedit

theorem beside_edit (hflight : m.store.turnInFlight = true)
    (announce : Moderating σ Unit) (content : Value) :
    Beside m (m.carry (editWith announce content)).2 ∧
      (m.carry (editWith announce content)).2.store.pendingEdit = content := by
  generalize hm' :
    m.record (.log .debug "Deferring notepad edit until the current turn finishes") = m'
  have hkept : m'.store.perform (.edit content) =
      ({ m'.store with pendingEdit := content }, false) := by
    rw [← hm']
    simp only [Store.perform, show (m.record _).store.turnInFlight = true from hflight, if_true]
  rw [editWith, carry_bind_ok (carry_get m), hflight, if_pos rfl, carry_bind_ok (carry_log ..), hm',
    carry_performWith announce rfl, hkept, ← hm']
  exact ⟨⟨rfl, rfl, rfl, Nat.le_refl _, .inl rfl⟩, rfl⟩

/-- a command carried out for its answer leaves the moderator that the command leaves -/
theorem snd_carry_map {α β : Type} (m : Moderator σ) (x : Moderating σ α) (f : α → Moderating σ β)
    (hf : ∀ a (m' : Moderator σ), (m'.carry (f a)).2 = m') :
    (m.carry (x >>= f)).2 = (m.carry x).2 := by
  rw [carry_bind]
  rcases m.carry x with ⟨_ | a, m'⟩
  · rfl
  · exact hf a m'

/-- whatever the moderator is told while it waits for a reply changes nothing but the token, the
edit that is kept back, the conversations that wait, and the ids -/
theorem beside_step (s : Surroundings σ) (hrun : m.running = true)
    (hflight : m.store.turnInFlight = true) {e : Event} (he : e.isBeside = true) :
    Beside m (m.step s e) ∧
      (m.step s e).store.pendingEdit = e.edit?.getD m.store.pendingEdit := by
  cases e with
  | replied _ => cases he
  | attached => cases he
  | passed now clock => exact ⟨⟨rfl, rfl, rfl, Nat.le_refl _, .inl rfl⟩, rfl⟩
  | told c =>
    simp only [step]
    cases c with
    | restore _ => cases he
    | load _ => cases he
    | configure _ _ => cases he
    | submit text image =>
      obtain ⟨j, hj⟩ := carry_submit_running s hrun text image
      rw [obey, carry_bind_ok hj]
      exact ⟨beside_withJournal m j, rfl⟩
    | retry =>
      obtain ⟨j, hj⟩ := carry_retry_running s hrun
      rw [obey, carry_bind_ok hj]
      exact ⟨beside_withJournal m j, rfl⟩
    | cancel =>
      rw [obey, snd_carry_map _ _ _ fun _ _ => rfl]
      refine ⟨beside_cancel m, ?_⟩
      rw [carry_cancel]
      split <;> rfl
    | edit content =>
      rw [obey, snd_carry_map _ _ _ fun _ _ => rfl]
      exact beside_edit hflight _ content
    | switch c =>
      rw [obey, snd_carry_map _ _ _ fun _ _ => rfl]
      exact beside_switch s hrun c
    | startNew document =>
      have hnew : ∃ c, m.carry (newConversation document) =
        (.ok c, { m with supply := m.supply.draw.2 }) := ⟨_, rfl⟩
      obtain ⟨c, hc⟩ := hnew
      have hdraw : Beside m { m with supply := m.supply.draw.2 } :=
        ⟨rfl, rfl, rfl, Nat.le_succ _, .inl rfl⟩
      rw [obey, carry_bind_ok hc, snd_carry_map _ _ _ fun _ _ => rfl]
      have hswitch := beside_switch s (m := { m with supply := m.supply.draw.2 }) hrun c
      exact ⟨hdraw.trans hswitch.1, hswitch.2⟩
    | look => exact ⟨Beside.refl m, rfl⟩

/-- an edit that is kept back is a text -/
theorem pendingEdit_step (s : Surroundings σ) (hrun : m.running = true)
    (hflight : m.store.turnInFlight = true) {e : Event} (he : e.isBeside = true)
    (hedit : m.store.pendingEdit = .null ∨ ∃ t, m.store.pendingEdit = .text t) :
    (m.step s e).store.pendingEdit = .null ∨ ∃ t, (m.step s e).store.pendingEdit = .text t := by
  rw [(beside_step s hrun hflight he).2]
  cases hv : e.edit? with
  | none => exact hedit
  | some v => exact .inr (Event.text_of_edit? he hv)

/-- events beside a run, one after the other: of several edits the last one is kept back -/
theorem beside_during (s : Surroundings σ) (hrun : m.running = true)
    (hflight : m.store.turnInFlight = true) {es : List Event} (hes : ∀ e ∈ es, e.isBeside = true) :
    Beside m (m.during s es) ∧
      (m.during s es).store.pendingEdit = (lastEdit es).getD m.store.pendingEdit := by
  induction es generalizing m with
  | nil => exact ⟨Beside.refl m, rfl⟩
  | cons e es ih =>
    obtain ⟨hstep, hedit⟩ := beside_step s hrun hflight (hes e List.mem_cons_self)
    obtain ⟨hrest, hedits⟩ := ih (hstep.running.trans hrun) (hstep.turnInFlight.trans hflight)
      fun x hx => hes x (List.mem_cons_of_mem e hx)
    rw [during_cons s hrun]
    refine ⟨hstep.trans hrest, ?_⟩
    rw [hedits, hedit, lastEdit_cons]
    cases lastEdit es <;> rfl

end Moderator

end Debate
