import Debate.Proofs.Outcomes

/-!
# What an event does at any time

Between two events a moderator either rests, and nothing is left of a run, or waits for the reply to a
call. Each event that the program itself can bring about leads from one such state to another, and
there are only a few ways in which it can do so. They cover every order of events, also those in which
a conversation is attached while a run is under way.

* `Event.IsTyped`          an event whose parts are texts where texts are meant;
* `Moderator.HasTexts`     a moderator that holds texts where texts are meant;
* `Moderator.IsPaused`     a moderator between two turns;
* `Moderator.Rests`, `Moderator.Awaits`   a moderator that rests, and one that waits for a reply;
* `Happened`               what an event can do;
* `Moderator.IsRegular.happened`   it does nothing else;
* `Moderator.IsRegular.step`       after every event the moderator rests or waits again.
-/

namespace Debate

open Debate.Number

variable {σ : Type}

/-! ## the notions -/

/-- an event whose parts are texts where texts are meant -/
inductive Event.IsTyped : Event → Prop where
  | submit (text : String) (image : Value) : IsTyped (.told (.submit (.text text) image))
  | retry : IsTyped (.told .retry)
  | cancel : IsTyped (.told .cancel)
  | edit (text : String) : IsTyped (.told (.edit (.text text)))
  | switch {c : Conversation} {d : String} (hc : c.document = .text d) : IsTyped (.told (.switch c))
  | startNew (text : String) : IsTyped (.told (.startNew (.text text)))
  | look : IsTyped (.told .look)
  | replied (reply : Except Fault Value) : IsTyped (.replied reply)
  | attached : IsTyped .attached
  | passed (now : Instant) (clock : Double) : IsTyped (.passed now clock)

/-- a conversation that an event brings: one to switch to, or a new one -/
inductive Event.Brings (m : Moderator σ) : Event → Conversation → Prop where
  | switch (c : Conversation) : Brings m (.told (.switch c)) c
  | startNew (text : String) : Brings m (.told (.startNew (.text text)))
      { id := .text m.supply.draw.1, createdAt := .text m.supply.timestamp, document := .text text }

namespace Moderator

/-- a moderator that holds texts where texts are meant -/
structure HasTexts (m : Moderator σ) : Prop where
  notepad : ∃ d, m.document = .text d
  waiters : ∀ w ∈ m.waiting, ∃ d, w.conversation.document = .text d
  failedStep : ∀ f ∈ m.failedStep, (∃ id, f.messageId = .text id) ∧ ∃ t, f.prompt = .text t

/-- a moderator between two turns of a run -/
structure IsPaused (m : Moderator σ) : Prop where
  texts : m.HasTexts
  running : m.running = true
  call : m.call = none
  inFlight : m.store.turnInFlight = false
  pendingEdit : m.store.pendingEdit = .null

/-- a moderator that rests -/
structure Rests (m : Moderator σ) : Prop where
  texts : m.HasTexts
  idle : m.IsIdle

/-- a moderator that waits for the reply to a call -/
structure Awaits (m : Moderator σ) (c : Call) : Prop where
  texts : m.HasTexts
  running : m.running = true
  call : m.call = some c
  pendingEdit : m.store.pendingEdit = .null ∨
    m.store.turnInFlight = true ∧ ∃ t, m.store.pendingEdit = .text t
  messageId : ∃ id, c.messageId = .text id
  prompt : ∃ t, c.prompt = .text t
  document : ∃ d, c.document = .text d
  task : ∀ previous, c.task = .retry previous → c.messageId = previous.id

/-- a moderator that rests or waits -/
def IsRegular (m : Moderator σ) : Prop := m.Rests ∨ ∃ c, m.Awaits c

/-- a moderator with a conversation in place of the one at hand -/
def attachedTo (s : Surroundings σ) (c : Conversation) (m : Moderator σ) : Moderator σ :=
  { heeded s { m with store := { conversation := c } } with failedStep := none }

end Moderator

open Moderator in
/-- what an event can do -/
inductive Happened (s : Surroundings σ) (m : Moderator σ) : Event → Moderator σ → Prop where
  /-- nothing but what may be changed beside a run -/
  | beside {e : Event} {m' : Moderator σ} (h : Beside m m')
      (hedit : m'.store.pendingEdit = m.store.pendingEdit ∨
        m.store.turnInFlight = true ∧ ∃ t, m'.store.pendingEdit = .text t)
      (hwaiting : m'.waiting = m.waiting) : Happened s m e m'
  /-- a conversation has to wait for the end of the run -/
  | queued {e : Event} {m' : Moderator σ} {c : Conversation} (hc : e.Brings m c)
      (hrun : m.running = true) (h : Beside m m')
      (hedit : m'.store.pendingEdit = m.store.pendingEdit)
      (hwaiting : m'.waiting = m.waiting ++ [{ conversation := c }]) : Happened s m e m'
  /-- an edit lands at once -/
  | edited {text : String} (hflight : m.store.turnInFlight = false) :
      Happened s m (.told (.edit (.text text))) (m.dispatched s (.setDocument (.text text)))
  /-- a conversation is attached at once -/
  | attachedNow {e : Event} {c : Conversation} (hc : e.Brings m c) (hrun : m.running = false)
      (supply : Supply) (hid : supply.idOf = m.supply.idOf) (hdrawn : m.supply.drawn ≤ supply.drawn) :
      Happened s m e ({ m with supply }.attachedTo s c)
  /-- the turn of a conversation that waits has come -/
  | attachedLate {w : Waiter} {rest : List Waiter} (hwaiting : m.waiting = w :: rest)
      (hwoken : w.woken = true) :
      Happened s m .attached ({ m with waiting := rest }.attachedTo s w.conversation)
  /-- a debate on a request begins -/
  | begun {text : String} {image : Value} {m₁ m' : Moderator σ} (hrun : m.running = false)
      (hrequest : Follows (requested s text image) m m₁) (hrest : Continued s m₁ m') :
      Happened s m (.told (.submit (.text text) image)) m'
  /-- a failed turn is to be taken once more -/
  | reopened {m' : Moderator σ} (hrun : m.running = false) (h : Reopened s m m') :
      Happened s m (.told .retry) m'
  /-- a reply arrives -/
  | replied {reply : Except Fault Value} {c : Call} {m' : Moderator σ} (hcall : m.call = some c)
      (h : Replied s c m m') : Happened s m (.replied reply) m'

namespace Moderator

variable {s : Surroundings σ} {m m' : Moderator σ}

/-! ## texts -/

theorem HasTexts.withJournal (h : m.HasTexts) (j : List Entry) : (m.withJournal j).HasTexts :=
  ⟨h.notepad, h.waiters, h.failedStep⟩

theorem HasTexts.beside (h : m.HasTexts) (hb : Beside m m')
    (hwaiting : ∀ w ∈ m'.waiting, w ∈ m.waiting ∨ ∃ d, w.conversation.document = .text d) :
    m'.HasTexts where
  notepad := by
    obtain ⟨d, hd⟩ := h.notepad
    exact ⟨d, (congrArg Conversation.document hb.conversation).trans hd⟩
  waiters w hw := (hwaiting w hw).elim (h.waiters w) id
  failedStep f hf := h.failedStep f (hb.failedStep ▸ hf)

theorem IsRegular.texts (h : m.IsRegular) : m.HasTexts := by
  rcases h with h | ⟨c, h⟩
  · exact h.texts
  · exact h.texts

theorem IsRegular.rests (hm : m.IsRegular) (hrun : m.running = false) : m.Rests := by
  rcases hm with hm | ⟨c, hm⟩
  · exact hm
  · rw [hm.running] at hrun
    cases hrun

theorem IsRegular.awaits {c : Call} (hm : m.IsRegular) (hcall : m.call = some c) : m.Awaits c := by
  rcases hm with hm | ⟨c', hm⟩
  · rw [hm.idle.call] at hcall
    cases hcall
  · rw [hm.call] at hcall
    cases hcall
    exact hm

/-! ## what an event does -/

theorem carry_attachNow (hs : s.IsCalm) (c : Conversation) (m : Moderator σ) :
    m.carry (attachNow s c) = (.ok ⟨⟩, m.attachedTo s c) := by
  have hload : m.carry (performWith (announce s s.depth) (.load c)) =
      (.ok (), heeded s { m with store := { conversation := c } }) := by
    rw [carry_performWith _ rfl]
    exact carry_announce hs _
  rw [attachNow, perform, carry_bind_ok hload]
  rfl

/-- a conversation that an event brings: it is attached if no run is under way, and waits otherwise -/
theorem happened_switch (hs : s.IsCalm) {e : Event} {c : Conversation} (hc : e.Brings m c)
    (htoken : m.running = false → m.token = none) {supply : Supply}
    (hid : supply.idOf = m.supply.idOf) (hdrawn : m.supply.drawn ≤ supply.drawn) :
    Happened s m e (({ m with supply }.carry (switch s c)).2) := by
  generalize hn : { m with supply } = n
  obtain ⟨b, n', hcancel, hb, hstore, hwaiting, hidle⟩ : ∃ b n', n.carry cancel = (.ok b, n') ∧
      Beside m n' ∧ n'.store = m.store ∧ n'.waiting = m.waiting ∧ (m.running = false → n' = n) := by
    rw [carry_cancel, ← hn]
    split
    · rename_i ht
      refine ⟨true, _, rfl, ⟨rfl, rfl, hid, hdrawn, .inr ⟨ht, rfl⟩⟩, rfl, rfl, fun hrun => ?_⟩
      rw [show ({ m with supply } : Moderator σ).token = m.token from rfl, htoken hrun] at ht
      cases ht
    · exact ⟨false, _, rfl, ⟨rfl, rfl, hid, hdrawn, .inl rfl⟩, rfl, rfl, fun _ => rfl⟩
  -- a run that is under way is cancelled first, and the conversation waits for its end
  rw [switch, carry_bind_ok hcancel, carry_bind_ok (carry_get _), hb.running]
  cases hrun : m.running with
  | true =>
    rw [if_pos rfl]
    refine .queued hc hrun (hb.trans ⟨rfl, rfl, rfl, Nat.le_refl _, .inl rfl⟩) ?_ ?_
    · exact congrArg Store.pendingEdit hstore
    · exact congrArg (· ++ [{ conversation := c }]) hwaiting
  | false =>
    rw [if_neg Bool.false_ne_true, hidle hrun, carry_attachNow hs, ← hn]
    exact .attachedNow hc hrun supply hid hdrawn

/-- everything that an event can do -/
theorem IsRegular.happened (hs : s.IsCalm) (h : m.IsRegular) {e : Event} (he : e.IsTyped) :
    Happened s m e (m.step s e) := by
  have aside {e : Event} {m' : Moderator σ} (hb : Beside m m')
      (hstore : m'.store = m.store) (hwaiting : m'.waiting = m.waiting) : Happened s m e m' :=
    .beside hb (.inl (congrArg Store.pendingEdit hstore)) hwaiting
  have htoken (hrun : m.running = false) : m.token = none := (h.rests hrun).idle.token
  obtain ⟨d, hd⟩ := h.texts.notepad
  -- by the events; a request and a retry are refused while a run is under way
  cases he with
  | submit text image =>
    cases hrun : m.running with
    | true =>
      obtain ⟨j, hj⟩ := carry_submit_running s hrun (.text text) image
      rw [step, obey, carry_bind_ok hj]
      exact aside (beside_withJournal m j) rfl rfl
    | false =>
      rcases continued_submit hs hrun hd text image with ⟨e, j, hj⟩ | ⟨m₁, hrequest, hrest⟩
      · rw [step, obey, snd_carry_map _ _ _ fun a _ => by cases a <;> rfl, hj]
        exact aside (beside_withJournal m j) rfl rfl
      · exact .begun hrun hrequest hrest
  | retry =>
    cases hrun : m.running with
    | true =>
      obtain ⟨j, hj⟩ := carry_retry_running s hrun
      rw [step_retry, hj]
      exact aside (beside_withJournal m j) rfl rfl
    | false => exact .reopened hrun (reopened_retry hs hrun h.texts.failedStep)
  | cancel =>
    rw [step, obey, snd_carry_map _ _ _ fun _ _ => rfl]
    refine aside (beside_cancel m) ?_ ?_ <;>
    · rw [carry_cancel]
      split <;> rfl
  | edit text =>
    rw [step, obey, snd_carry_map _ _ _ fun _ _ => rfl]
    cases hflight : m.store.turnInFlight with
    | true =>
      obtain ⟨hb, hedit⟩ := beside_edit hflight (announce s s.depth) (.text text)
      exact .beside hb (.inr ⟨hflight, text, hedit⟩) (still_editWith s (.text text) m).waiting
    | false =>
      have hland : m.carry (editWith (announce s s.depth) (.text text)) =
          (.ok (), m.dispatched s (.setDocument (.text text))) := by
        rw [editWith, carry_bind_ok (carry_get m), hflight, if_neg Bool.false_ne_true,
          carry_performWith _ rfl]
        simp only [Store.perform, hflight, Bool.false_eq_true, if_false, if_true]
        exact carry_announce hs _
      rw [hland]
      exact .edited hflight
  | switch hc =>
    rw [step, obey, snd_carry_map _ _ _ fun _ _ => rfl]
    exact happened_switch hs (.switch _) htoken rfl (Nat.le_refl _)
  | startNew text =>
    have hnew : m.carry (newConversation (.text text)) = (.ok {
        id := .text m.supply.draw.1, createdAt := .text m.supply.timestamp
        document := .text text }, { m with supply := m.supply.draw.2 }) := rfl
    rw [step, obey, carry_bind_ok hnew, snd_carry_map _ _ _ fun _ _ => rfl]
    exact happened_switch hs (.startNew text) htoken rfl (Nat.le_succ _)
  | look => exact aside (Beside.refl m) rfl rfl
  | passed now clock => exact aside ⟨rfl, rfl, rfl, Nat.le_refl _, .inl rfl⟩ rfl rfl
  | replied reply =>
    rcases h with h | ⟨c, h⟩
    · rw [step, carry_resume_of_none s h.idle.call]
      exact aside (Beside.refl m) rfl rfl
    · obtain ⟨d', hd'⟩ := h.document
      exact .replied h.call (replied_step hs h.call hd' hd (h.pendingEdit.imp_right And.right) reply)
  | attached =>
    rw [step, attach, carry_bind_ok (carry_get m)]
    cases hw : m.waiting with
    | nil => exact aside (Beside.refl m) rfl rfl
    | cons w rest =>
      dsimp only
      cases hwoken : w.woken with
      | false => exact aside (Beside.refl m) rfl rfl
      | true =>
        rw [if_pos rfl, carry_bind_ok (carry_modify m _), snd_carry_map _ _ _ fun _ _ => rfl,
          carry_attachNow hs]
        exact .attachedLate hw hwoken

end Moderator

/-! ## what changes keep -/

open Moderator in
/-- what a change makes of a moderator, for what the journal does not matter to -/
theorem Follows.preserves {f : Moderator σ → Moderator σ} {m m' : Moderator σ}
    {P Q : Moderator σ → Prop} (h : Follows f m m') (hm : P m)
    (hP : ∀ n j, P n → P (n.withJournal j)) (hf : ∀ n, P n → Q (f n))
    (hQ : ∀ n j, Q n → Q (n.withJournal j)) : Q m' := by
  obtain ⟨j, k, rfl⟩ := h
  exact hQ _ k (hf _ (hP m j hm))

namespace Moderator

variable {s : Surroundings σ} {m m' : Moderator σ}

/-- a change of the log keeps texts -/
theorem HasTexts.of_unedited (hs : s.IsCalm) (h : m.HasTexts) (hdocument : Unedited s m m')
    (hwaiting : m'.waiting = m.waiting) (hstep : ∀ f ∈ m'.failedStep, f ∈ m.failedStep) :
    m'.HasTexts where
  notepad := by
    obtain ⟨d, hd⟩ := h.notepad
    exact hdocument.text hs hd
  waiters w hw := h.waiters w (hwaiting ▸ hw)
  failedStep f hf := h.failedStep f (hstep f hf)

namespace IsPaused

theorem withJournal (h : m.IsPaused) (j : List Entry) : (m.withJournal j).IsPaused :=
  ⟨h.texts.withJournal j, h.running, h.call, h.inFlight, h.pendingEdit⟩

theorem dispatched (hs : s.IsCalm) (h : m.IsPaused) {a : Action}
    (ha : (m.store.conversation.apply a).document = m.document) : (m.dispatched s a).IsPaused where
  texts := h.texts.of_unedited hs ((document_dispatched s a m).imp (·.trans ha) And.right)
    (waiting_dispatched s a m) fun f hf => by rwa [failedStep_dispatched] at hf
  running := (running_dispatched s a m).trans h.running
  call := (call_dispatched s a m).trans h.call
  inFlight := (turnInFlight_dispatched s a m).trans h.inFlight
  pendingEdit := (pendingEdit_dispatched_of_landed s a m h.inFlight).trans h.pendingEdit

theorem appended (hs : s.IsCalm) (h : m.IsPaused) (make : String → String → Message) :
    (m.appended s make).IsPaused :=
  dispatched hs (m := { m with supply := m.supply.draw.2 })
    ⟨⟨h.texts.notepad, h.texts.waiters, h.texts.failedStep⟩, h.running, h.call, h.inFlight,
      h.pendingEdit⟩ rfl

theorem withStep (h : m.IsPaused) {step : Option FailedStep}
    (hstep : ∀ f ∈ step, (∃ id, f.messageId = .text id) ∧ ∃ t, f.prompt = .text t) :
    { m with failedStep := step }.IsPaused :=
  ⟨⟨h.texts.notepad, h.texts.waiters, hstep⟩, h.running, h.call, h.inFlight, h.pendingEdit⟩

theorem broken (hs : s.IsCalm) (h : m.IsPaused) {c : Call} (hid : ∃ id, c.messageId = .text id)
    (hprompt : ∃ t, c.prompt = .text t) (e : Fault) : (m.broken s c e).IsPaused := by
  refine (h.dispatched hs rfl).withStep ?_
  rintro f ⟨⟩
  exact ⟨hid, hprompt⟩

theorem playedBack (hs : s.IsCalm) (h : m.IsPaused) {α : Type} (r : Except Fault α) :
    (m.playedBack s r).IsPaused := by
  cases r with
  | ok _ =>
    have hnone : { m with failedStep := none }.IsPaused :=
      h.withStep fun f hf => absurd hf (Option.not_mem_none f)
    exact hnone.appended hs fun id now => .notice id now retryNotice
  | error _ => exact h

theorem mended (hs : s.IsCalm) (h : m.IsPaused) (previous : Message) {α : Type}
    (r : Except Fault α) : (m.mended s previous r).IsPaused := by
  cases r with
  | ok _ => exact h
  | error e => cases e <;> exact h.dispatched hs rfl

theorem settled (hs : s.IsCalm) (h : m.IsPaused) (outcome : Outcome) :
    (m.settled s outcome).Rests where
  texts := by
    have hcleared : (m.cleared s outcome).IsPaused := by
      unfold cleared
      split
      · exact (h.dispatched hs rfl).appended hs _
      · exact h.dispatched hs rfl
    refine ⟨hcleared.texts.notepad, fun w hw => ?_, hcleared.texts.failedStep⟩
    obtain ⟨w', hw', rfl⟩ := List.mem_map.mp hw
    exact hcleared.texts.waiters w' hw'
  idle := isIdle_settled s outcome h.call h.inFlight h.pendingEdit

theorem waitingFor (h : m.IsPaused) {c : Call} (hid : ∃ id, c.messageId = .text id)
    (hprompt : ∃ t, c.prompt = .text t) (hdocument : ∃ d, c.document = .text d)
    (htask : ∀ previous, c.task = .retry previous → c.messageId = previous.id) :
    (m.waitingFor c).Awaits c :=
  ⟨⟨h.texts.notepad, h.texts.waiters, h.texts.failedStep⟩, h.running, rfl, .inl h.pendingEdit, hid,
    hprompt, hdocument, htask⟩

end IsPaused

namespace Rests

theorem withJournal (h : m.Rests) (j : List Entry) : (m.withJournal j).Rests :=
  ⟨h.texts.withJournal j, h.idle.running, h.idle.token, h.idle.call, h.idle.inFlight,
    h.idle.pendingEdit⟩

theorem started (h : m.Rests) : { m with token := some false, running := true }.IsPaused :=
  ⟨⟨h.texts.notepad, h.texts.waiters, h.texts.failedStep⟩, rfl, h.idle.call, h.idle.inFlight,
    h.idle.pendingEdit⟩

theorem reopened (hs : s.IsCalm) (h : m.Rests) (previous : Message) :
    (m.reopened s previous).IsPaused := h.started.dispatched hs rfl

theorem requested (hs : s.IsCalm) (h : m.Rests) (text : String) (image : Value) :
    (m.requested s text image).IsPaused where
  texts := by
    have htexts : (m.appended s fun id now => .request id now (.text text) image).HasTexts :=
      h.texts.of_unedited hs (Unedited.appended s _ m) (waiting_appended s _ m)
        fun f hf => by rwa [failedStep_appended] at hf
    exact ⟨htexts.notepad, htexts.waiters, fun f hf => absurd hf (Option.not_mem_none f)⟩
  running := rfl
  call := (call_appended s _ m).trans h.idle.call
  inFlight := (turnInFlight_appended s _ m).trans h.idle.inFlight
  pendingEdit := (pendingEdit_appended s _ m h.idle.inFlight).trans h.idle.pendingEdit

end Rests

namespace Awaits

variable {c : Call}

theorem withJournal (h : m.Awaits c) (j : List Entry) : (m.withJournal j).Awaits c :=
  ⟨h.texts.withJournal j, h.running, h.call, h.pendingEdit, h.messageId, h.prompt, h.document,
    h.task⟩

theorem committed (hs : s.IsCalm) (h : m.Awaits c) {r : Except Fault Turn.Result}
    (hr : ∀ t, r = .ok t → ∃ d, t.document = .text d) : (m.committed s c r).IsPaused where
  texts := by
    obtain ⟨d, hd⟩ := h.texts.notepad
    refine ⟨text_document_committed hs hd (h.pendingEdit.imp_right And.right) hr, ?_, ?_⟩
    · rw [waiting_committed]
      exact h.texts.waiters
    · rw [failedStep_committed]
      exact h.texts.failedStep
  running := (running_committed s c r m).trans h.running
  call := call_committed s c r m
  inFlight := turnInFlight_committed s c r m
  pendingEdit := pendingEdit_committed s c r m

end Awaits

theorem HasTexts.attachedTo (hs : s.IsCalm) (h : m.HasTexts) {c : Conversation} {d : String}
    (hc : c.document = .text d) : (m.attachedTo s c).HasTexts := by
  have hload := heeded_heeded s { m with store := { conversation := c } }
  refine ⟨?_, fun w hw => ?_, fun f hf => absurd hf (Option.not_mem_none f)⟩
  · rcases hload.document with hd | ⟨-, hd⟩
    · exact ⟨d, hd.trans hc⟩
    · exact hs.editsText _ hd
  · have hwaiting : (heeded s { m with store := { conversation := c } }).waiting = m.waiting :=
      (congrArg Moderator.waiting hload.same :)
    exact h.waiters w (hwaiting ▸ hw)

end Moderator

/-! ## after an event -/

open Moderator

section

variable {s : Surroundings σ} {m m' : Moderator σ} {c : Call}

theorem Follows.isPaused {f : Moderator σ → Moderator σ} (h : Follows f m m') (hm : m.IsPaused)
    (hf : ∀ n : Moderator σ, n.IsPaused → (f n).IsPaused) : m'.IsPaused :=
  h.preserves hm (fun _ j hn => hn.withJournal j) hf fun _ j hn => hn.withJournal j

theorem Follows.isRegular {o : Outcome} (h : Follows (settled s o) m m') (hs : s.IsCalm)
    (hm : m.IsPaused) : m'.IsRegular :=
  .inl (h.preserves hm (fun _ j hn => hn.withJournal j) (fun _ hn => hn.settled hs o)
    fun _ j hn => hn.withJournal j)

theorem Continued.isRegular (hs : s.IsCalm) (h : Continued s m m') (hm : m.IsPaused) :
    m'.IsRegular := by
  cases h with
  | waits hplaced htask hid hdocument hprompt =>
    have hwaits := hplaced.isPaused hm fun _ hn => hn.appended hs _
    refine .inr ⟨_, hwaits.waitingFor ⟨_, hid⟩ ⟨_, hprompt⟩ ⟨_, hdocument⟩ ?_⟩
    intro previous hprevious
    rw [htask] at hprevious
    cases hprevious
  | stopped hend => exact hend.isRegular hs hm
  | stoppedLate hplaced hend =>
    exact hend.isRegular hs (hplaced.isPaused hm fun _ hn => hn.appended hs _)
  | complete hend => exact hend.isRegular hs hm
  | agreed hsaid hend =>
    exact hend.isRegular hs (hsaid.isPaused hm fun _ hn => hn.appended hs _)
  | failed hend => exact hend.isRegular hs hm

theorem Follows.isPaused_committed {r : Except Fault Turn.Result}
    (h : Follows (committed s c r) m m') (hs : s.IsCalm) (hm : m.Awaits c)
    (hr : ∀ t, r = .ok t → ∃ d, t.document = .text d) : m'.IsPaused :=
  h.preserves (P := (Awaits · c)) hm (fun _ j hn => hn.withJournal j)
    (fun _ hn => hn.committed hs hr)
    fun _ j hn => hn.withJournal j

theorem Replied.isRegular (hs : s.IsCalm) (h : Replied s c m m') (hm : m.Awaits c) :
    m'.IsRegular := by
  cases h with
  | went htask hr hturn hrest =>
    refine hrest.isRegular hs (hturn.isPaused_committed hs hm ?_)
    rintro t ⟨⟩
    exact hr
  | cancelled htask hturn hend =>
    exact hend.isRegular hs (hturn.isPaused_committed hs hm fun t ht => nomatch ht)
  | broke htask hturn hbroken hend =>
    have hm₁ := hturn.isPaused_committed hs hm fun t ht => nomatch ht
    have hm₂ := hbroken.isPaused hm₁ fun _ hn => hn.broken hs hm.messageId hm.prompt _
    exact hend.isRegular hs hm₂
  | replayed htask hr hturn hplayed hmended hend =>
    have hm₁ := hturn.isPaused_committed hs hm hr
    have hm₂ := hplayed.isPaused hm₁ fun _ hn => hn.playedBack hs _
    have hm₃ := hmended.isPaused hm₂ fun _ hn => hn.mended hs _ _
    exact hend.isRegular hs hm₃

theorem Follows.isPaused_reopened {previous : Message} (h : Follows (reopened s previous) m m')
    (hs : s.IsCalm) (hm : m.Rests) : m'.IsPaused :=
  h.preserves hm (fun _ j hn => hn.withJournal j) (fun _ hn => hn.reopened hs previous)
    fun _ j hn => hn.withJournal j

theorem Reopened.isRegular (hs : s.IsCalm) (h : Reopened s m m') (hm : m.Rests) :
    m'.IsRegular := by
  cases h with
  | refused j => exact .inl (hm.withJournal j)
  | gone j _ _ =>
    have hjournal := hm.withJournal j
    exact .inl ⟨⟨hjournal.texts.notepad, hjournal.texts.waiters,
      fun f hf => absurd hf (Option.not_mem_none f)⟩, hjournal.idle.running, hjournal.idle.token,
      hjournal.idle.call, hjournal.idle.inFlight, hjournal.idle.pendingEdit⟩
  | waits hstep hid hfound hopen htask hmessage hprompt hdocument =>
    obtain ⟨⟨id, hid'⟩, t, ht⟩ := hm.texts.failedStep _ hstep
    have hm₁ := hopen.isPaused_reopened hs hm
    obtain ⟨d, hd⟩ := hm₁.texts.notepad
    refine .inr ⟨_, hm₁.waitingFor ⟨id, ?_⟩ ⟨t, hprompt.trans ht⟩ ⟨d, hdocument.trans hd⟩ ?_⟩
    · rw [hmessage, ← hid, hid']
    · intro previous hprevious
      rw [htask] at hprevious
      cases hprevious
      exact hmessage
  | stopped _ _ _ hopen hback hend =>
    have hm₁ := hopen.isPaused_reopened hs hm
    exact hend.isRegular hs (hback.isPaused hm₁ fun _ hn => hn.dispatched hs rfl)

theorem Event.Brings.text_document {e : Event} {c : Conversation} (h : e.Brings m c)
    (he : e.IsTyped) : ∃ d, c.document = .text d := by
  cases h with
  | switch c =>
    cases he with
    | switch hc => exact ⟨_, hc⟩
  | startNew text => exact ⟨text, rfl⟩

end

namespace Moderator

variable {s : Surroundings σ} {m : Moderator σ}

theorem IsRegular.beside {m' : Moderator σ} (hm : m.IsRegular) (h : Beside m m')
    (hedit : m'.store.pendingEdit = m.store.pendingEdit ∨
      m.store.turnInFlight = true ∧ ∃ t, m'.store.pendingEdit = .text t)
    (hwaiting : ∀ w ∈ m'.waiting, w ∈ m.waiting ∨ ∃ d, w.conversation.document = .text d) :
    m'.IsRegular := by
  rcases hm with hm | ⟨c, hm⟩
  · refine .inl ⟨hm.texts.beside h hwaiting, h.running.trans hm.idle.running, ?_,
      h.call.trans hm.idle.call, h.turnInFlight.trans hm.idle.inFlight, ?_⟩
    · rcases h.token with ht | ⟨ht, -⟩
      · exact ht.trans hm.idle.token
      · rw [hm.idle.token] at ht
        cases ht
    · rcases hedit with hp | ⟨hf, -⟩
      · exact hp.trans hm.idle.pendingEdit
      · rw [hm.idle.inFlight] at hf
        cases hf
  · refine .inr ⟨c, hm.texts.beside h hwaiting, h.running.trans hm.running, h.call.trans hm.call,
      ?_, hm.messageId, hm.prompt, hm.document, hm.task⟩
    rw [h.turnInFlight]
    rcases hedit with hp | hp
    · rw [hp]
      exact hm.pendingEdit
    · exact .inr hp

/-- without a turn in flight no edit is kept back -/
theorem IsRegular.pendingEdit_of_landed (hm : m.IsRegular) (h : m.store.turnInFlight = false) :
    m.store.pendingEdit = .null := by
  rcases hm with hm | ⟨c, hm⟩
  · exact hm.idle.pendingEdit
  · rcases hm.pendingEdit with hp | ⟨hf, -⟩
    · exact hp
    · rw [h] at hf
      cases hf

/-- listeners are shown a conversation that was edited, or one in place of another -/
theorem IsRegular.shown {n m' : Moderator σ} (hm : m.IsRegular) (h : Heeded s n m')
    (hrunning : n.running = m.running) (hcall : n.call = m.call) (htoken : n.token = m.token)
    (hflight : n.store.turnInFlight = false) (hedit : n.store.pendingEdit = .null)
    {step : Option FailedStep}
    (htexts : { m' with failedStep := step }.HasTexts) :
    { m' with failedStep := step }.IsRegular := by
  have hrunning' : m'.running = m.running := (congrArg Moderator.running h.same :).trans hrunning
  have hcall' : m'.call = m.call := (congrArg Moderator.call h.same :).trans hcall
  have hflight' : m'.store.turnInFlight = false := h.turnInFlight.trans hflight
  have hedit' : m'.store.pendingEdit = .null := by
    rcases h.pendingEdit with hp | ⟨hf, -⟩
    · exact hp.trans hedit
    · rw [hflight] at hf
      cases hf
  rcases hm with hm | ⟨c, hm⟩
  · refine .inl ⟨htexts, hrunning'.trans hm.idle.running, ?_, hcall'.trans hm.idle.call, hflight',
      hedit'⟩
    have hnone := htoken.trans hm.idle.token
    rcases h.token with ht | ⟨ht, -⟩
    · exact ht.trans hnone
    · rw [hnone] at ht
      cases ht
  · exact .inr ⟨c, htexts, hrunning'.trans hm.running, hcall'.trans hm.call, .inl hedit',
      hm.messageId, hm.prompt, hm.document, hm.task⟩

/-- after every event the moderator rests or waits again -/
theorem IsRegular.step (hs : s.IsCalm) (hm : m.IsRegular) {e : Event} (he : e.IsTyped) :
    (m.step s e).IsRegular := by
  have hhappened := hm.happened hs he
  generalize m.step s e = m' at hhappened
  cases hhappened with
  | beside h hedit hwaiting => exact hm.beside h hedit fun w hw => .inl (hwaiting ▸ hw)
  | queued hc _ h hedit hwaiting =>
    refine hm.beside h (.inl hedit) fun w hw => ?_
    rw [hwaiting] at hw
    rcases List.mem_append.mp hw with hw | hw
    · exact .inl hw
    · rw [List.mem_singleton.mp hw]
      exact .inr (hc.text_document he)
  | @edited text hflight =>
    have hshown := heeded_dispatched s (.setDocument (.text text)) m
    refine hm.shown hshown rfl rfl rfl hflight (hm.pendingEdit_of_landed hflight) ⟨?_, ?_, ?_⟩
    · rcases document_dispatched s (.setDocument (.text text)) m with hd | ⟨-, hd⟩
      · exact ⟨text, hd⟩
      · exact hs.editsText _ hd
    · have hwaiting := waiting_dispatched s (.setDocument (.text text)) m
      exact fun w hw => hm.texts.waiters w (hwaiting ▸ hw)
    · have hstep := failedStep_dispatched s (.setDocument (.text text)) m
      exact fun f hf => hm.texts.failedStep f (hstep ▸ hf)
  | @attachedNow _ c hc _ supply _ _ =>
    obtain ⟨d, hd⟩ := hc.text_document he
    have htexts : { m with supply }.HasTexts :=
      ⟨hm.texts.notepad, hm.texts.waiters, hm.texts.failedStep⟩
    exact hm.shown (heeded_heeded s { m with supply, store := { conversation := c } }) rfl rfl rfl
      rfl rfl (htexts.attachedTo hs hd)
  | @attachedLate w rest hwaiting _ =>
    obtain ⟨d, hd⟩ := hm.texts.waiters w (hwaiting ▸ List.mem_cons_self)
    have htexts : { m with waiting := rest }.HasTexts :=
      ⟨hm.texts.notepad, fun x hx => hm.texts.waiters x (hwaiting ▸ List.mem_cons_of_mem w hx),
        hm.texts.failedStep⟩
    exact hm.shown (heeded_heeded s { m with
      waiting := rest, store := { conversation := w.conversation } }) rfl rfl rfl rfl rfl
      (htexts.attachedTo hs hd)
  | begun hrun hrequest hrest =>
    exact hrest.isRegular hs (hrequest.preserves (hm.rests hrun) (fun _ j hn => hn.withJournal j)
      (fun _ hn => hn.requested hs _ _) fun _ j hn => hn.withJournal j)
  | reopened hrun h => exact h.isRegular hs (hm.rests hrun)
  | replied hcall h => exact h.isRegular hs (hm.awaits hcall)

end Moderator

end Debate
