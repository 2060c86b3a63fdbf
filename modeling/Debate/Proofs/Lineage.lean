import Debate.Proofs.Events

/-!
# What a run keeps

Nothing that a run does puts another conversation in place of the one at hand: it only changes it.
Nor does a run touch the conversations that wait, except that whoever waits is woken when it is
settled. All of this holds whatever the listeners do, also when they fail.

* `Conversation.Becomes`   what changes make of a conversation;
* `Onward`                 before and after a part of a run that does not settle it;
* `Still`                  the same, where a reply is waited for after it just as before;
* `Settling`               before and after a part of a run that may settle it;
* `Calls`                  a part of a run that leaves a call only if it has a result of some kind;
* `Worked`                 before and after a step in which a run is started or goes on;
* `Works`                  a step of that kind, taken while no reply is waited for.
-/

namespace Debate

variable {σ α β : Type}

/-! ## what becomes of a conversation -/

/-- what changes make of a conversation -/
def Conversation.Becomes (c c' : Conversation) : Prop := ∃ as, c' = c.applyAll as

namespace Conversation.Becomes

variable {c c' c'' : Conversation}

theorem refl (c : Conversation) : c.Becomes c := ⟨[], rfl⟩

theorem apply (c : Conversation) (a : Action) : c.Becomes (c.apply a) := ⟨[a], rfl⟩

theorem trans (h : c.Becomes c') (h' : c'.Becomes c'') : c.Becomes c'' := by
  obtain ⟨as, rfl⟩ := h
  obtain ⟨as', rfl⟩ := h'
  exact ⟨as ++ as', List.foldl_append.symm⟩

end Conversation.Becomes

/-- only loading puts another conversation in place of the one at hand -/
theorem Store.becomes_perform (s : Store) {op : Store.Operation} (h : ∀ c, op ≠ .load c) :
    s.conversation.Becomes (s.perform op).1.conversation := by
  cases op with
  | dispatch a => exact .apply _ a
  | beginTurn => exact .refl _
  | endTurn =>
    simp only [Store.perform]
    split
    · exact .refl _
    · exact .apply s.conversation (.setDocument s.pendingEdit)
  | edit content =>
    simp only [Store.perform]
    split
    · exact .refl _
    · exact .apply s.conversation (.setDocument content)
  | load c => exact absurd rfl (h c)

/-! ## relations -/

/-- before and after a part of a run that does not settle it -/
structure Onward (m m' : Moderator σ) : Prop where
  becomes : m.store.conversation.Becomes m'.store.conversation
  running : m'.running = m.running
  waiting : m'.waiting = m.waiting

/-- before and after a part of a run after which a reply is waited for just as before -/
structure Still (m m' : Moderator σ) : Prop extends Onward m m' where
  call : m'.call = m.call

/-- whoever waits is woken -/
def woken (ws : List Waiter) : List Waiter := ws.map fun w => { w with woken := true }

theorem woken_woken (ws : List Waiter) : woken (woken ws) = woken ws := by
  simp [woken]

theorem woken_of_mem_woken {ws : List Waiter} {w : Waiter} (h : w ∈ woken ws) : w.woken = true := by
  obtain ⟨_, -, rfl⟩ := List.mem_map.mp h
  rfl

/-- before and after a part of a run that may settle it -/
structure Settling (m m' : Moderator σ) : Prop where
  becomes : m.store.conversation.Becomes m'.store.conversation
  call : m'.call = m.call
  waiting : m'.running = m.running ∧ m'.waiting = m.waiting ∨
    m'.running = false ∧ m'.waiting = woken m.waiting

namespace Onward

variable {m m' m'' : Moderator σ}

theorem refl (m : Moderator σ) : Onward m m := ⟨.refl _, rfl, rfl⟩

theorem trans (h : Onward m m') (h' : Onward m' m'') : Onward m m'' where
  becomes := h.becomes.trans h'.becomes
  running := h'.running.trans h.running
  waiting := h'.waiting.trans h.waiting

end Onward

namespace Still

variable {m m' m'' : Moderator σ}

theorem refl (m : Moderator σ) : Still m m := ⟨.refl m, rfl⟩

theorem trans (h : Still m m') (h' : Still m' m'') : Still m m'' :=
  ⟨h.toOnward.trans h'.toOnward, h'.call.trans h.call⟩

theorem bind {x : Moderating σ α} {f : α → Moderating σ β} (hx : Keeps Still x)
    (hf : ∀ a, Keeps Still (f a)) : Keeps Still (x >>= f) :=
  Keeps.bind (fun _ _ _ h h' => h.trans h') hx hf

theorem settling (h : Still m m') : Settling m m' :=
  ⟨h.becomes, h.call, .inl ⟨h.running, h.waiting⟩⟩

/-- listeners change no more than the notepad -/
theorem of_heeded {s : Surroundings σ} (h : Heeded s m m') : Still m m' := by
  refine ⟨⟨⟨[.setDocument m'.store.conversation.document], ?_⟩, ?_, ?_⟩, ?_⟩
  · exact (congrArg Store.conversation h.store :)
  · exact (congrArg Moderator.running h.same :)
  · exact (congrArg Moderator.waiting h.same :)
  · exact (congrArg Moderator.call h.same :)

end Still

namespace Settling

variable {m m' m'' : Moderator σ}

theorem refl (m : Moderator σ) : Settling m m := (Still.refl m).settling

theorem trans (h : Settling m m') (h' : Settling m' m'') : Settling m m'' := by
  refine ⟨h.becomes.trans h'.becomes, h'.call.trans h.call, ?_⟩
  rcases h.waiting with ⟨hr, hw⟩ | ⟨hr, hw⟩ <;> rcases h'.waiting with ⟨hr', hw'⟩ | ⟨hr', hw'⟩
  · exact .inl ⟨hr'.trans hr, hw'.trans hw⟩
  · exact .inr ⟨hr', hw'.trans (by rw [hw])⟩
  · exact .inr ⟨hr'.trans hr, hw'.trans hw⟩
  · exact .inr ⟨hr', by rw [hw', hw, woken_woken]⟩

theorem bind {x : Moderating σ α} {f : α → Moderating σ β} (hx : Keeps Settling x)
    (hf : ∀ a, Keeps Settling (f a)) : Keeps Settling (x >>= f) :=
  Keeps.bind (fun _ _ _ h h' => h.trans h') hx hf

end Settling

theorem Keeps.settling {x : Moderating σ α} (h : Keeps Still x) : Keeps Settling x :=
  fun m => (h m).settling

namespace Moderator

variable {m : Moderator σ}

/-! ## parts of a turn -/

theorem still_log (level : Level) (text : String) : Keeps Still (log (σ := σ) level text) :=
  fun _ => ⟨⟨.refl _, rfl, rfl⟩, rfl⟩

theorem still_live (text : String) : Keeps Still (live (σ := σ) text) :=
  fun _ => ⟨⟨.refl _, rfl, rfl⟩, rfl⟩

theorem still_newId : Keeps Still (newId (σ := σ)) := fun _ => ⟨⟨.refl _, rfl, rfl⟩, rfl⟩

theorem still_timestamp : Keeps Still (timestamp (σ := σ)) := fun m => Still.refl m

theorem still_checkToken : Keeps Still (checkToken (σ := σ)) := by
  intro m
  rw [carry_checkToken]
  exact Still.refl m

theorem still_cancel : Keeps Still (cancel (σ := σ)) := by
  intro m
  rw [carry_cancel]
  split
  · exact ⟨⟨.refl _, rfl, rfl⟩, rfl⟩
  · exact Still.refl m

theorem still_performWith {announce : Moderating σ Unit} (ha : Keeps Still announce)
    {op : Store.Operation} (hop : ∀ c, op ≠ .load c) : Keeps Still (performWith announce op) := by
  intro m
  cases h : m.store.refusal? op with
  | some e =>
    rw [performWith, carry_bind_ok (carry_get m), h]
    exact Still.refl m
  | none =>
    have hstore : Still m { m with store := (m.store.perform op).1 } :=
      ⟨⟨m.store.becomes_perform hop, rfl, rfl⟩, rfl⟩
    rw [carry_performWith announce h]
    dsimp only
    split
    · exact hstore.trans (ha _)
    · exact hstore

theorem still_announce (s : Surroundings σ) : Keeps Still (announce s s.depth) :=
  fun m => Still.of_heeded (heeded_heeded s m)

theorem still_perform (s : Surroundings σ) {op : Store.Operation} (hop : ∀ c, op ≠ .load c) :
    Keeps Still (perform s op) := still_performWith (still_announce s) hop

theorem still_dispatch (s : Surroundings σ) (a : Action) : Keeps Still (dispatch s a) :=
  still_perform s nofun

theorem still_editWith (s : Surroundings σ) (content : Value) :
    Keeps Still (editWith (announce s s.depth) content) := by
  have hedit : Keeps Still (performWith (announce s s.depth) (.edit content)) :=
    still_perform s nofun
  intro m
  rw [editWith, carry_bind_ok (carry_get m)]
  split
  · exact Still.bind (still_log _ _) (fun _ => hedit) m
  · exact hedit m

theorem still_notify (s : Surroundings σ) (text : String) : Keeps Still (notify s text) :=
  Still.bind still_newId fun _ => Still.bind still_timestamp fun _ => still_dispatch s _

theorem still_remarks (level : Level) (remarks : List String) :
    Keeps Still (σ := σ) (forIn remarks PUnit.unit fun remark _ => do
      log level remark
      pure (ForInStep.yield PUnit.unit)) := by
  intro m
  obtain ⟨j, hj⟩ := carry_remarks level remarks m
  rw [hj]
  exact ⟨⟨.refl _, rfl, rfl⟩, rfl⟩

theorem still_editedNotepad (c : Call) (edits : List Notepad.Edit) :
    Keeps Still (editedNotepad (σ := σ) c edits) := by
  intro m
  obtain ⟨j, hj⟩ := carry_editedNotepad c edits m
  rw [hj]
  exact ⟨⟨.refl _, rfl, rfl⟩, rfl⟩

theorem still_commit (s : Surroundings σ) (c : Call) (reply : Except Fault Value) :
    Keeps Still (commit s c reply) := by
  refine Still.bind (Keeps.lift Still.refl _) fun value => ?_
  refine Still.bind still_checkToken fun _ => ?_
  refine Still.bind (Keeps.lift Still.refl _) fun raw => ?_
  refine Still.bind (still_remarks .debug _) fun _ => ?_
  refine Still.bind (Keeps.lift Still.refl _) fun parsed => ?_
  refine Still.bind (still_editedNotepad c _) fun document => ?_
  refine Still.bind (Keeps.get Still.refl) fun m => ?_
  refine Still.bind (Keeps.lift Still.refl _) fun took => ?_
  exact Still.bind (still_dispatch s _) fun _ => Keeps.pure Still.refl _

theorem still_reportFailure (s : Surroundings σ) (persona : Persona) (messageId : Value)
    (e : Fault) : Keeps Still (reportFailure s persona messageId e) := by
  have logged (level : Level) (text : String) : Keeps Still (do
      log level text
      live ("ERROR (" ++ persona.title ++ "): " ++ e.message)
      dispatch s (.fail messageId (if e.message.isEmpty then unknownError else e.message))) :=
    Still.bind (still_log _ _) fun _ => Still.bind (still_live _) fun _ => still_dispatch s _
  cases e <;> exact logged _ _

theorem still_chooseVoice (s : Surroundings σ) : Keeps Still (chooseVoice s) := by
  refine Still.bind (Keeps.get Still.refl) fun m => ?_
  refine Still.bind (Keeps.lift Still.refl _) fun tooFew => ?_
  refine Keeps.ite (Keeps.throw Still.refl _) ?_
  cases s.voice with
  | some name => exact Keeps.pure Still.refl _
  | none =>
    refine Still.bind (still_remarks .warning _) fun _ => ?_
    exact Still.bind (Keeps.lift Still.refl _) fun _ => Keeps.pure Still.refl _

/-- after its reply a call is no longer waited for -/
theorem onward_finishTurn (s : Surroundings σ) (c : Call) (reply : Except Fault Value)
    (m : Moderator σ) :
    Onward m (m.carry (finishTurn s c reply)).2 ∧
      (m.carry (finishTurn s c reply)).2.call = none := by
  have hrest : Keeps Still (do
      let r ← attempt (commit s c reply)
      perform s .endTurn
      let result ← r
      live (finishedText c.persona result)
      return result) := by
    refine Still.bind (Keeps.attempt (still_commit s c reply)) fun r => ?_
    refine Still.bind (still_perform s nofun) fun _ => ?_
    refine Still.bind (Keeps.lift Still.refl _) fun result => ?_
    exact Still.bind (still_live _) fun _ => Keeps.pure Still.refl _
  have hend := hrest m.withoutCall
  have hwithout : Onward m m.withoutCall := ⟨.refl _, rfl, rfl⟩
  rw [finishTurn, carry_bind_ok (carry_modify m _)]
  exact ⟨hwithout.trans hend.toOnward, hend.call⟩

/-! ## parts of a run that start a turn -/

end Moderator

/-- a part of a run that does not settle it, and that leaves another call than before only if it has
a result of some kind -/
def Calls (P : α → Prop) (x : Moderating σ α) : Prop :=
  ∀ m : Moderator σ, Onward m (m.carry x).2 ∧
    ((m.carry x).2.call = m.call ∨ ∃ a, (m.carry x).1 = .ok a ∧ P a)

namespace Calls

open Moderator

variable {P : α → Prop} {Q : β → Prop} {x : Moderating σ α}

theorem of_still (h : Keeps Still x) : Calls P x := fun m => ⟨(h m).toOnward, .inl (h m).call⟩

theorem bind_still {f : α → Moderating σ β} (hx : Keeps Still x) (hf : ∀ a, Calls Q (f a)) :
    Calls Q (x >>= f) := by
  intro m
  have h := hx m
  rw [carry_bind]
  rcases hr : m.carry x with ⟨_ | a, m'⟩ <;> rw [hr] at h
  · exact ⟨h.toOnward, .inl h.call⟩
  · obtain ⟨honward, hcall⟩ := hf a m'
    exact ⟨h.toOnward.trans honward, hcall.imp_left fun hc => hc.trans h.call⟩

/-- a result in place of another one -/
theorem map {b : β} (hx : Calls P x) (hb : Q b) :
    Calls Q (do
      let _ ← x
      return b) := by
  intro m
  obtain ⟨honward, hcall⟩ := hx m
  rw [carry_bind]
  rcases hr : m.carry x with ⟨_ | a, m'⟩ <;> rw [hr] at honward hcall
  · refine ⟨honward, hcall.imp_right ?_⟩
    rintro ⟨_, ha, -⟩
    cases ha
  · exact ⟨honward, .inr ⟨b, rfl, hb⟩⟩

end Calls

namespace Moderator

/-- a call is left by a turn that was started -/
theorem calls_startTurn (s : Surroundings σ) (task : Task) (voice : Voice) (persona : Persona)
    (messageId prompt document : Value) :
    Calls (fun _ => True) (startTurn s task voice persona messageId prompt document) := by
  refine Calls.bind_still still_checkToken fun _ => ?_
  refine Calls.bind_still (still_live _) fun _ => ?_
  refine Calls.bind_still (Keeps.lift Still.refl _) fun length => ?_
  refine Calls.bind_still (still_log _ _) fun _ => ?_
  refine Calls.bind_still (Keeps.get Still.refl) fun m => ?_
  refine Calls.bind_still (still_perform s nofun) fun _ => ?_
  exact fun m => ⟨⟨.refl _, rfl, rfl⟩, .inr ⟨⟨⟩, rfl, trivial⟩⟩

theorem calls_takeTurn (s : Surroundings σ) (voice : Voice) (p : Progress) (persona : Persona) :
    Calls (fun _ => True) (takeTurn s voice p persona) := by
  refine Calls.bind_still still_checkToken fun _ => ?_
  refine Calls.bind_still (Keeps.get Still.refl) fun m => ?_
  refine Calls.bind_still still_newId fun id => ?_
  refine Calls.bind_still still_timestamp fun now => ?_
  refine Calls.bind_still (still_dispatch s _) fun _ => ?_
  refine Calls.bind_still (Keeps.get Still.refl) fun m' => ?_
  refine Calls.bind_still (Keeps.lift Still.refl _) fun document => ?_
  exact calls_startTurn s _ _ _ _ _ _

theorem calls_beginIteration (s : Surroundings σ) (voice : Voice) (p : Progress) :
    Calls (fun _ => True) (beginIteration s voice p) := by
  refine Calls.bind_still (still_log _ _) fun _ => ?_
  refine Calls.bind_still (still_live _) fun _ => ?_
  refine Calls.bind_still (still_live _) fun _ => ?_
  refine Calls.bind_still (still_live _) fun _ => ?_
  exact Calls.bind_still (Keeps.get Still.refl) fun m => calls_takeTurn s _ _ _

theorem calls_beginDebate (s : Surroundings σ) (voice : Voice) (text : Value) :
    Calls (fun _ => True) (beginDebate s voice text) := by
  refine Calls.bind_still (Keeps.get Still.refl) fun m => ?_
  refine Calls.bind_still (Keeps.lift Still.refl _) fun n => ?_
  exact calls_beginIteration s _ _

/-- a call is left only if the debate goes on -/
theorem calls_afterTurn (s : Surroundings σ) (voice : Voice) (p : Progress) (marked : Bool) :
    Calls (· = none) (afterTurn s voice p marked) := by
  rw [afterTurn]
  cases p.position with
  | first =>
    refine Calls.bind_still (Keeps.get Still.refl) fun m => ?_
    exact Calls.map (calls_takeTurn s _ _ _) rfl
  | second before =>
    dsimp only
    split
    · refine Calls.of_still (Still.bind (still_log _ _) fun _ => ?_)
      exact Still.bind (still_notify s _) fun _ => Keeps.pure Still.refl _
    · split
      · exact Calls.map (calls_beginIteration s _ _) rfl
      · exact Calls.of_still (Still.bind (still_log _ _) fun _ => Keeps.pure Still.refl _)

/-- after a reply to a debate another one is waited for only if the debate goes on -/
theorem onward_continueDebate (s : Surroundings σ) (c : Call) (p : Progress)
    (reply : Except Fault Value) (m : Moderator σ) :
    Onward m (m.carry (continueDebate s c p reply)).2 ∧
      ((m.carry (continueDebate s c p reply)).2.call = none ∨
        (m.carry (continueDebate s c p reply)).1 = .ok none) := by
  obtain ⟨hend, hcall⟩ := onward_finishTurn s c reply m
  rw [continueDebate]
  rcases hr : m.carry (finishTurn s c reply) with ⟨e | r, m'⟩ <;> rw [hr] at hend hcall <;>
    rw [carry_attempt_bind hr]
  · have hfailed : Keeps Still (do
        reportFailure s c.persona c.messageId e
        modify fun m => { m with
          failedStep := some {
            messageId := c.messageId, prompt := c.prompt, sender := c.persona.sender } }
        return some Outcome.failed) := by
      refine Still.bind (still_reportFailure s _ _ _) fun _ => ?_
      exact Still.bind (Keeps.modify fun _ => ⟨⟨.refl _, rfl, rfl⟩, rfl⟩) fun _ =>
        Keeps.pure Still.refl _
    have hreport := hfailed m'
    cases e with
    | cancelled => exact ⟨hend, .inl hcall⟩
    | aborted => exact ⟨hend, .inl hcall⟩
    | _ => exact ⟨hend.trans hreport.toOnward, .inl (hreport.call.trans hcall)⟩
  · obtain ⟨hafter, hnext⟩ := calls_afterTurn s c.voice p r.sawMarker m'
    refine ⟨hend.trans hafter, ?_⟩
    rcases hnext with hnext | ⟨_, hnext, rfl⟩
    · exact .inl (hnext.trans hcall)
    · exact .inr hnext

/-! ## parts of a run that settle it -/

theorem settling_finish (s : Surroundings σ) (outcome : Outcome) :
    Keeps Settling (finish s outcome) := by
  have hclose : Keeps Settling (σ := σ) (do
      log .info ("Discussion settled: " ++ outcome.name)
      live ("SETTLED: " ++ outcome.name)
      modify (closed outcome)) := by
    refine Settling.bind (still_log _ _).settling fun _ => ?_
    refine Settling.bind (still_live _).settling fun _ => ?_
    exact Keeps.modify fun m => ⟨.refl _, rfl, .inr ⟨rfl, rfl⟩⟩
  refine Settling.bind (still_dispatch s _).settling fun _ => ?_
  split
  · exact Settling.bind (still_notify s _).settling fun _ => hclose
  · exact hclose

theorem settling_settleDebate (s : Surroundings σ) (r : Except Fault (Option Outcome)) :
    Keeps Settling (settleDebate s r) := by
  unfold settleDebate
  split
  · exact Keeps.pure Settling.refl _
  · exact Settling.bind (settling_finish s _) fun _ => Keeps.pure Settling.refl _
  · exact Settling.bind (settling_finish s _) fun _ => Keeps.pure Settling.refl _
  · exact Settling.bind (settling_finish s _) fun _ => Keeps.throw Settling.refl _
  · exact Settling.bind (settling_finish s _) fun _ => Keeps.throw Settling.refl _

theorem settling_settleRetry (s : Surroundings σ) (persona : Persona) (previous : Message)
    (r : Except Fault Unit) : Keeps Settling (settleRetry s persona previous r) := by
  refine Settling.bind (Keeps.attempt ?_) fun r => ?_
  · split
    · exact Keeps.pure Settling.refl _
    · exact Settling.bind (still_dispatch s _).settling fun _ => Keeps.pure Settling.refl _
    · exact Settling.bind (still_dispatch s _).settling fun _ => Keeps.pure Settling.refl _
    · exact Settling.bind (still_reportFailure s _ _ _).settling fun _ => Keeps.pure Settling.refl _
  · split
    · refine Settling.bind (settling_finish s _) fun _ => ?_
      exact Settling.bind (Keeps.raise Settling.refl _) fun _ => Keeps.pure Settling.refl _
    · exact Settling.bind (settling_finish s _) fun _ => Keeps.throw Settling.refl _

end Moderator

/-! ## steps of a run -/

/-- before and after a step in which a run may be started, go on, or be settled -/
structure Worked (m m' : Moderator σ) : Prop where
  becomes : m.store.conversation.Becomes m'.store.conversation
  waiting : (m'.running = false → m.running = false) ∧ m'.waiting = m.waiting ∨
    m'.running = false ∧ m'.waiting = woken m.waiting
  call : m'.running = false → m'.call = none

namespace Worked

variable {m m' m'' : Moderator σ}

/-- a part of a run that goes on until a reply is waited for -/
theorem of_onward (h : Onward m m') (hcall : m'.running = false → m'.call = none) : Worked m m' :=
  ⟨h.becomes, .inl ⟨fun hr => h.running.symm.trans hr, h.waiting⟩, hcall⟩

theorem of_still (h : Still m m') (hcall : m.running = false → m.call = none) : Worked m m' :=
  of_onward h.toOnward fun hr => h.call.trans (hcall (h.running.symm.trans hr))

/-- a part of a run that may settle it, once no reply is waited for any more -/
theorem of_settling (h : Onward m m') (h' : Settling m' m'') (hcall : m'.call = none) :
    Worked m m'' := by
  refine ⟨h.becomes.trans h'.becomes, ?_, fun _ => h'.call.trans hcall⟩
  rcases h'.waiting with ⟨hr, hw⟩ | ⟨hr, hw⟩
  · exact .inl ⟨fun hm => h.running.symm.trans (hr.symm.trans hm), hw.trans h.waiting⟩
  · exact .inr ⟨hr, by rw [hw, h.waiting]⟩

/-- a run that was started when none was under way -/
theorem of_started (hrun : m.running = false) (h : Still m m')
    (h' : Worked { m' with token := some false, running := true } m'') : Worked m m'' := by
  refine ⟨h.becomes.trans h'.becomes, ?_, h'.call⟩
  rcases h'.waiting with ⟨-, hw⟩ | ⟨hr, hw⟩
  · exact .inl ⟨fun _ => hrun, hw.trans h.waiting⟩
  · exact .inr ⟨hr, hw.trans (by rw [h.waiting])⟩

theorem after_still (h : Still m m') (h' : Worked m' m'') : Worked m m'' := by
  refine ⟨h.becomes.trans h'.becomes, ?_, h'.call⟩
  rcases h'.waiting with ⟨hr, hw⟩ | ⟨hr, hw⟩
  · exact .inl ⟨fun hm => h.running.symm.trans (hr hm), hw.trans h.waiting⟩
  · exact .inr ⟨hr, hw.trans (by rw [h.waiting])⟩

end Worked

/-- a step that is taken while no reply is waited for, within a run or while none is under way -/
def Works (running : Bool) (x : Moderating σ α) : Prop :=
  ∀ m : Moderator σ, m.running = running → m.call = none → Worked m (m.carry x).2

namespace Works

open Moderator

variable {running : Bool} {x : Moderating σ α}

theorem of_still (hx : Keeps Still x) : Works running x :=
  fun m _ hcall => Worked.of_still (hx m) fun _ => hcall

theorem bind_still {f : α → Moderating σ β} (hx : Keeps Still x) (hf : ∀ a, Works running (f a)) :
    Works running (x >>= f) := by
  intro m hrun hcall
  have h := hx m
  rw [carry_bind]
  rcases hr : m.carry x with ⟨_ | a, m'⟩ <;> rw [hr] at h
  · exact Worked.of_still h fun _ => hcall
  · exact Worked.after_still h (hf a m' (h.running.trans hrun) (h.call.trans hcall))

/-- a run is started -/
theorem start (hx : Works true x) :
    Works false (do
      markRunning
      x) := by
  intro m hrun hcall
  rw [carry_bind_ok (carry_markRunning m)]
  exact Worked.of_started hrun (Still.refl m) (hx _ rfl hcall)

/-- a part of a run that ends with a call or without one, and what settles the run in that case -/
theorem settle {P : α → Prop} {f : Except Fault α → Moderating σ β} (hx : Calls P x)
    (hok : ∀ a, P a → Keeps Still (f (.ok a)))
    (hf : ∀ r, Keeps Settling (f r)) : Works true (attempt x >>= f) := by
  intro m hrun hcall
  obtain ⟨honward, hnext⟩ := hx m
  rcases hr : m.carry x with ⟨r, m'⟩
  rw [carry_attempt_bind hr]
  rw [hr] at honward hnext
  rcases hnext with hnext | ⟨a, rfl, ha⟩
  · exact Worked.of_settling honward (hf r m') (hnext.trans hcall)
  · have hstill := hok a ha m'
    refine Worked.of_onward (honward.trans hstill.toOnward) fun hidle => ?_
    rw [hstill.running, honward.running, hrun] at hidle
    cases hidle

end Works

namespace Moderator

variable {m : Moderator σ}

/-- a request is ignored while a run is under way; otherwise it starts one -/
theorem worked_submit (s : Surroundings σ) (hm : m.running = false → m.call = none)
    (text image : Value) : Worked m (m.carry (submit s text image)).2 := by
  cases hrun : m.running with
  | true =>
    obtain ⟨j, hj⟩ := carry_submit_running s hrun text image
    rw [hj]
    exact Worked.of_still ⟨⟨.refl _, rfl, rfl⟩, rfl⟩ hm
  | false =>
    have hdebate (voice : Voice) : Works true (do
        let r ← attempt (beginDebate s voice text)
        return (← settleDebate s (r.map fun _ => none)).map RunState.settled) := by
      refine Works.settle (calls_beginDebate s voice text) (fun _ _ => ?_) fun r => ?_
      · exact Still.bind (Keeps.pure Still.refl _) fun _ => Keeps.pure Still.refl _
      · exact Settling.bind (settling_settleDebate s _) fun _ => Keeps.pure Settling.refl _
    have hsubmit : Works false (do
        let voice ← chooseVoice s
        let id ← newId
        let now ← timestamp
        dispatch s (.append (.request id now text image))
        modify fun m => { m with failedStep := none }
        markRunning
        let r ← attempt (beginDebate s voice text)
        return (← settleDebate s (r.map fun _ => none)).map RunState.settled) := by
      refine Works.bind_still (still_chooseVoice s) fun voice => ?_
      refine Works.bind_still still_newId fun id => ?_
      refine Works.bind_still still_timestamp fun now => ?_
      refine Works.bind_still (still_dispatch s _) fun _ => ?_
      refine Works.bind_still (Keeps.modify fun _ => ⟨⟨.refl _, rfl, rfl⟩, rfl⟩) fun _ => ?_
      exact Works.start (hdebate voice)
    rw [submit, carry_bind_ok (carry_get m), hrun, if_neg Bool.false_ne_true]
    exact hsubmit m hrun (hm hrun)

/-- a failed turn is taken once more only if no run is under way -/
theorem worked_retry (s : Surroundings σ) (hm : m.running = false → m.call = none) :
    Worked m (m.carry (retry s)).2 := by
  cases hrun : m.running with
  | true =>
    obtain ⟨j, hj⟩ := carry_retry_running s hrun
    rw [hj]
    exact Worked.of_still ⟨⟨.refl _, rfl, rfl⟩, rfl⟩ hm
  | false =>
    have hcall := hm hrun
    rw [retry, carry_bind_ok (carry_get m)]
    cases m.failedStep with
    | none =>
      refine Works.of_still (Still.bind (still_log _ _) fun _ => ?_) m hrun hcall
      exact Keeps.pure Still.refl _
    | some step =>
      dsimp only
      rw [hrun, if_neg Bool.false_ne_true]
      cases m.store.conversation.find? step.messageId with
      | none =>
        refine Works.of_still (Still.bind (still_log _ _) fun _ => ?_) m hrun hcall
        exact Still.bind (Keeps.modify fun _ => ⟨⟨.refl _, rfl, rfl⟩, rfl⟩) fun _ =>
          Keeps.pure Still.refl _
      | some previous =>
        dsimp only
        cases m.settings.debater step.sender with
        | error e => exact Works.of_still (Keeps.throw Still.refl _) m hrun hcall
        | ok persona =>
          refine Works.bind_still (still_chooseVoice s) (fun voice => ?_) m hrun hcall
          refine Works.start ?_
          refine Works.bind_still (still_dispatch s _) fun _ => ?_
          refine Works.bind_still (still_live _) fun _ => ?_
          refine Works.bind_still (Keeps.get Still.refl) fun m' => ?_
          refine Works.settle (calls_startTurn s _ _ _ _ _ _) (fun _ _ => Keeps.pure Still.refl _)
            fun r => ?_
          cases r with
          | ok _ => exact Keeps.pure Settling.refl _
          | error e =>
            exact Settling.bind (settling_settleRetry s _ _ _) fun _ => Keeps.pure Settling.refl _

/-- a reply that nobody waits for is dropped -/
theorem carry_resume_of_none (s : Surroundings σ) (h : m.call = none) (reply : Except Fault Value) :
    m.carry (resume s reply) = (.ok none, m) := by
  rw [resume, carry_bind_ok (carry_get m), h]
  rfl

/-- a turn that is taken once more, up to what settles it -/
theorem carry_played (s : Surroundings σ) (c : Call) (reply : Except Fault Value)
    (m : Moderator σ) :
    ∃ r m', m.carry (do
        let _ ← finishTurn s c reply
        modify fun m => { m with failedStep := none }
        notify s retryNotice) = (r, m') ∧ Onward m m' ∧ m'.call = none := by
  have hnotify : Keeps Still (do
      modify fun m => { m with failedStep := none }
      notify s retryNotice) :=
    Still.bind (Keeps.modify fun _ => ⟨⟨.refl _, rfl, rfl⟩, rfl⟩) fun _ => still_notify s _
  obtain ⟨hend, hcall⟩ := onward_finishTurn s c reply m
  rcases hr : m.carry (finishTurn s c reply) with ⟨e | r, m'⟩ <;> rw [hr] at hend hcall
  · exact ⟨.error e, m', carry_bind_error hr _, hend, hcall⟩
  · have hsaid := hnotify m'
    exact ⟨_, _, carry_bind_ok hr _, hend.trans hsaid.toOnward, hsaid.call.trans hcall⟩

/-- a run goes on with its reply, up to its next call or its end -/
theorem worked_resume (s : Surroundings σ) (hm : m.running = false → m.call = none)
    (reply : Except Fault Value) : Worked m (m.carry (resume s reply)).2 := by
  cases hc : m.call with
  | none =>
    rw [carry_resume_of_none s hc]
    exact Worked.of_still (Still.refl m) hm
  | some c =>
    have hrun : m.running = true := by
      cases h : m.running with
      | true => rfl
      | false =>
        rw [hm h] at hc
        cases hc
    rw [resume, carry_bind_ok (carry_get m), hc]
    dsimp only
    cases c.task with
    | debate p =>
      obtain ⟨honward, hnext⟩ := onward_continueDebate s c p reply m
      rcases hr : m.carry (continueDebate s c p reply) with ⟨r, m'⟩
      rw [hr] at honward hnext
      rw [carry_attempt_bind hr, snd_carry_map _ _ _ fun _ _ => rfl]
      rcases hnext with hnext | rfl
      · exact Worked.of_settling honward (settling_settleDebate s r m') hnext
      · have hon : m'.running = true := honward.running.trans hrun
        exact Worked.of_onward honward fun hidle => absurd (hidle.symm.trans hon) Bool.false_ne_true
    | retry previous =>
      rw [snd_carry_map _ _ _ fun _ _ => rfl]
      obtain ⟨r, m', hr, honward, hnext⟩ := carry_played s c reply m
      have hplayed : m.carry (continueRetry s c previous reply) =
          m'.carry (settleRetry s c.persona previous r) := carry_attempt_bind hr _
      rw [hplayed]
      exact Worked.of_settling honward (settling_settleRetry s _ _ r m') hnext

end Moderator

end Debate
