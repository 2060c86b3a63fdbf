import Debate.Proofs.Alongside

/-!
# Runs side by side

Everything that the moderator does is done in step by two moderators that stand side by side, as long
as nothing goes wrong with those who listen: whole turns, debates and retries, and every command but a
look, which tells of the outcome of the last run. So whatever happens to both, they stay side by side,
and a run ends with the same answer.

* `InStep.submit`, `InStep.retry`, `InStep.resume`   the runs, from their parts;
* `InStep.obey`              commands;
* `Twins.step`, `Twins.during`   whatever happens to both.
-/

namespace Debate

open Debate.Number

variable {σ σ' : Type}

namespace InStep

open Moderator

variable {p : Pairing σ σ'} {s : Surroundings σ} {s' : Surroundings σ'}

/-! ### parts of a turn -/

theorem perform (hp : p.Fits s s') (op : Store.Operation) :
    InStep p (perform s op) (perform s' op) := performWith (announce hp _ _) op

theorem dispatch (hp : p.Fits s s') (a : Action) : InStep p (dispatch s a) (dispatch s' a) :=
  perform hp (.dispatch a)

theorem editedNotepad (c : Call) (edits : List Notepad.Edit) :
    InStep p (editedNotepad c edits) (editedNotepad c edits) := by
  refine bind (remarks .warning _) fun _ => ?_
  refine bind (lift _) fun document => ?_
  split
  · exact pure _
  · exact bind (log _ _) fun _ => pure _

theorem reportFailure (hp : p.Fits s s') (persona : Persona) (messageId : Value) (e : Fault) :
    InStep p (reportFailure s persona messageId e) (reportFailure s' persona messageId e) := by
  have logged (level : Level) (text : String) : InStep p (do
      Moderator.log level text
      Moderator.live ("ERROR (" ++ persona.title ++ "): " ++ e.message)
      Moderator.dispatch s (.fail messageId (failureText e))) (do
      Moderator.log level text
      Moderator.live ("ERROR (" ++ persona.title ++ "): " ++ e.message)
      Moderator.dispatch s' (.fail messageId (failureText e))) :=
    bind (log _ _) fun _ => bind (live _) fun _ => dispatch hp _
  cases e <;> exact logged _ _

variable [Nonempty σ] [Nonempty σ']

theorem notify (hp : p.Fits s s') (text : String) : InStep p (notify s text) (notify s' text) :=
  bind newId fun _ => bind timestamp fun _ => dispatch hp _

theorem editWith (hp : p.Fits s s') (content : Value) :
    InStep p (editWith (Moderator.announce s s.depth) content)
      (editWith (Moderator.announce s' s'.depth) content) := by
  have hedit := performWith (announce hp s.depth s'.depth) (.edit content)
  refine get fun h => ?_
  rw [h.store.inFlight]
  exact ite (bind (log _ _) fun _ => hedit) hedit

/-! ### a turn -/

theorem startTurn (hp : p.Fits s s') (task : Task) (voice : Voice) (persona : Persona)
    (messageId prompt document : Value) :
    InStep p (startTurn s task voice persona messageId prompt document)
      (startTurn s' task voice persona messageId prompt document) := by
  refine bind checkToken fun _ => ?_
  refine bind (live _) fun _ => ?_
  refine bind (lift _) fun length => ?_
  refine bind (log _ _) fun _ => ?_
  refine get fun h => ?_
  rw [h.clock]
  refine bind (perform hp .beginTurn) fun _ => ?_
  refine update (fun _ => rfl) (fun _ => rfl) fun h => ?_
  have hrecord := h.record (.prompt prompt)
  exact { hrecord with call := rfl }

theorem commit (hp : p.Fits s s') (c : Call) (reply : Except Fault Value) :
    InStep p (commit s c reply) (commit s' c reply) := by
  refine bind (lift _) fun value => ?_
  refine bind checkToken fun _ => ?_
  refine bind (lift _) fun raw => ?_
  refine bind (remarks .debug _) fun _ => ?_
  refine bind (lift _) fun parsed => ?_
  refine bind (editedNotepad c _) fun document => ?_
  refine get fun h => ?_
  rw [h.clock]
  refine bind (lift _) fun took => ?_
  exact bind (dispatch hp _) fun _ => pure _

theorem finishTurn (hp : p.Fits s s') (c : Call) (reply : Except Fault Value) :
    InStep p (finishTurn s c reply) (finishTurn s' c reply) := by
  refine bind (update (fun _ => rfl) (fun _ => rfl) fun h => { h with call := rfl }) fun _ => ?_
  refine bind (attempt (commit hp c reply)) fun r => ?_
  refine bind (perform hp .endTurn) fun _ => ?_
  refine bind (lift _) fun result => ?_
  exact bind (live _) fun _ => pure _

/-! ### a run -/

theorem finish (hp : p.Fits s s') (outcome : Outcome) :
    InStep p (finish s outcome) (finish s' outcome) := by
  have hclose : InStep p (do
      Moderator.log .info ("Discussion settled: " ++ outcome.name)
      Moderator.live ("SETTLED: " ++ outcome.name)
      modify (closed outcome)) (do
      Moderator.log .info ("Discussion settled: " ++ outcome.name)
      Moderator.live ("SETTLED: " ++ outcome.name)
      modify (closed outcome)) := by
    refine bind (log _ _) fun _ => bind (live _) fun _ => ?_
    refine update (fun _ => rfl) (fun _ => rfl) fun h => ?_
    exact { h with token := rfl, running := rfl }
  refine bind (dispatch hp _) fun _ => ?_
  split
  · exact bind (notify hp _) fun _ => hclose
  · exact hclose

theorem chooseVoice (hp : p.Fits s s') : InStep p (chooseVoice s) (chooseVoice s') := by
  refine get fun h => ?_
  rw [h.settings, hp.voice, hp.environment]
  refine bind (lift _) fun tooFew => ?_
  refine ite (throw _) ?_
  cases s.voice with
  | some name => exact pure _
  | none => exact bind (remarks .warning _) fun _ => bind (lift _) fun _ => pure _

/-! ### debates -/

theorem takeTurn (hp : p.Fits s s') (voice : Voice) (q : Progress) (persona : Persona) :
    InStep p (takeTurn s voice q persona) (takeTurn s' voice q persona) := by
  refine bind checkToken fun _ => ?_
  refine get fun h => ?_
  rw [history, history, h.settings, h.store.conversation.settled]
  refine bind newId fun id => ?_
  refine bind timestamp fun now => ?_
  refine bind (dispatch hp _) fun _ => ?_
  refine get fun h => ?_
  rw [h.settings, h.store.conversation.document]
  exact bind (lift _) fun document => startTurn hp _ _ _ _ _ _

theorem beginIteration (hp : p.Fits s s') (voice : Voice) (q : Progress) :
    InStep p (beginIteration s voice q) (beginIteration s' voice q) := by
  refine bind (log _ _) fun _ => ?_
  refine bind (live _) fun _ => bind (live _) fun _ => bind (live _) fun _ => ?_
  refine get fun h => ?_
  rw [h.settings]
  exact takeTurn hp _ _ _

theorem beginDebate (hp : p.Fits s s') (voice : Voice) (text : Value) :
    InStep p (beginDebate s voice text) (beginDebate s' voice text) := by
  refine get fun h => ?_
  rw [h.settings]
  exact bind (lift _) fun n => beginIteration hp _ _

theorem afterTurn (hp : p.Fits s s') (voice : Voice) (q : Progress) (marked : Bool) :
    InStep p (afterTurn s voice q marked) (afterTurn s' voice q marked) := by
  rw [Moderator.afterTurn, Moderator.afterTurn]
  cases q.position with
  | first =>
    refine get fun h => ?_
    rw [h.settings]
    exact bind (takeTurn hp _ _ _) fun _ => pure _
  | second before =>
    refine ite (bind (log _ _) fun _ => bind (notify hp _) fun _ => pure _) ?_
    refine ite (bind (beginIteration hp _ _) fun _ => pure _) ?_
    exact bind (log _ _) fun _ => pure _

theorem continueDebate (hp : p.Fits s s') (c : Call) (q : Progress) (reply : Except Fault Value) :
    InStep p (continueDebate s c q reply) (continueDebate s' c q reply) := by
  refine bind (attempt (finishTurn hp c reply)) fun r => ?_
  have hfailed (e : Fault) : InStep p (do
      Moderator.reportFailure s c.persona c.messageId e
      modify fun m => { m with failedStep := some {
        messageId := c.messageId, prompt := c.prompt, sender := c.persona.sender } }
      return some Outcome.failed) (do
      Moderator.reportFailure s' c.persona c.messageId e
      modify fun m => { m with failedStep := some {
        messageId := c.messageId, prompt := c.prompt, sender := c.persona.sender } }
      return some Outcome.failed) := by
    refine bind (reportFailure hp _ _ _) fun _ => ?_
    exact bind (update (fun _ => rfl) (fun _ => rfl) fun h => { h with failedStep := rfl })
      fun _ => pure _
  cases r with
  | ok result => exact afterTurn hp _ _ _
  | error e =>
    cases e with
    | cancelled => exact throw _
    | aborted => exact throw _
    | _ => exact hfailed _

theorem settleDebate (hp : p.Fits s s') (r : Except Fault (Option Outcome)) :
    InStep p (settleDebate s r) (settleDebate s' r) := by
  unfold Moderator.settleDebate
  split
  · exact pure _
  · exact bind (finish hp _) fun _ => pure _
  · exact bind (finish hp _) fun _ => pure _
  · exact bind (finish hp _) fun _ => throw _
  · exact bind (finish hp _) fun _ => throw _

theorem submit (hp : p.Fits s s') (text image : Value) :
    InStep p (submit s text image) (submit s' text image) := by
  refine get fun h => ?_
  rw [h.running]
  refine ite (bind (log _ _) fun _ => pure _) ?_
  refine bind (chooseVoice hp) fun voice => ?_
  refine bind newId fun id => ?_
  refine bind timestamp fun now => ?_
  refine bind (dispatch hp _) fun _ => ?_
  refine bind (update (fun _ => rfl) (fun _ => rfl) fun h => { h with failedStep := rfl }) fun _ => ?_
  refine bind markRunning fun _ => ?_
  refine bind (attempt (beginDebate hp _ _)) fun r => ?_
  exact bind (settleDebate hp _) fun _ => pure _

/-! ### retries -/

theorem settleRetry (hp : p.Fits s s') (persona : Persona) (previous : Message)
    (r : Except Fault Unit) :
    InStep p (settleRetry s persona previous r) (settleRetry s' persona previous r) := by
  refine bind (attempt ?_) fun r => ?_
  · split
    · exact pure _
    · exact bind (dispatch hp _) fun _ => pure _
    · exact bind (dispatch hp _) fun _ => pure _
    · exact bind (reportFailure hp _ _ _) fun _ => pure _
  · split
    · exact bind (finish hp _) fun _ => bind (raise _) fun _ => pure _
    · exact bind (finish hp _) fun _ => throw _

theorem retry (hp : p.Fits s s') : InStep p (retry s) (retry s') := by
  refine get fun {m m'} h => ?_
  rw [h.failedStep, h.running, h.settings]
  cases m.failedStep with
  | none => exact bind (log _ _) fun _ => pure _
  | some step =>
    refine ite (bind (log _ _) fun _ => pure _) ?_
    rw [h.store.conversation.find?]
    cases m.store.conversation.find? step.messageId with
    | none =>
      refine bind (log _ _) fun _ => ?_
      exact bind (update (fun _ => rfl) (fun _ => rfl) fun h => { h with failedStep := rfl })
        fun _ => pure _
    | some previous =>
      dsimp only
      cases m.settings.debater step.sender with
      | error e => exact throw _
      | ok persona =>
        refine bind (chooseVoice hp) fun voice => ?_
        refine bind markRunning fun _ => ?_
        refine bind (dispatch hp _) fun _ => ?_
        refine bind (live _) fun _ => ?_
        refine get fun h => ?_
        rw [h.store.conversation.document]
        refine bind (attempt (startTurn hp _ _ _ _ _ _)) fun r => ?_
        cases r with
        | ok _ => exact pure _
        | error e => exact bind (settleRetry hp _ _ _) fun _ => pure _

theorem continueRetry (hp : p.Fits s s') (c : Call) (previous : Message)
    (reply : Except Fault Value) :
    InStep p (continueRetry s c previous reply) (continueRetry s' c previous reply) := by
  refine bind (attempt ?_) fun r => settleRetry hp _ _ r
  refine bind (finishTurn hp c reply) fun _ => ?_
  refine bind (update (fun _ => rfl) (fun _ => rfl) fun h => { h with failedStep := rfl }) fun _ => ?_
  exact notify hp _

theorem resume (hp : p.Fits s s') (reply : Except Fault Value) :
    InStep p (resume s reply) (resume s' reply) := by
  refine get fun {m m'} h => ?_
  rw [h.call]
  cases m.call with
  | none => exact pure _
  | some c =>
    cases htask : c.task with
    | debate q =>
      simp only [htask]
      exact bind (attempt (continueDebate hp c q reply)) fun r =>
        bind (settleDebate hp r) fun _ => pure _
    | retry previous =>
      simp only [htask]
      exact bind (continueRetry hp c previous reply) fun _ => pure _

/-! ### commands -/

theorem restore (step : Option FailedStep) :
    InStep p (restore step) (restore step) := by
  have hset (f : Option FailedStep) : InStep p (modify fun m => { m with failedStep := f })
      (modify fun m => { m with failedStep := f }) :=
    update (fun _ => rfl) (fun _ => rfl) fun h => { h with failedStep := rfl }
  cases step with
  | none => exact hset none
  | some f =>
    refine get fun h => ?_
    rw [h.store.conversation.find?]
    exact ite (hset _) (bind (log _ _) fun _ => hset _)

theorem switch (hp : p.Fits s s') (c : Conversation) : InStep p (switch s c) (switch s' c) := by
  refine bind cancel fun _ => ?_
  refine get fun h => ?_
  rw [h.running]
  refine ite (update (fun _ => rfl) (fun _ => rfl) fun h => { h with }) ?_
  refine bind (perform hp _) fun _ => ?_
  exact update (fun _ => rfl) (fun _ => rfl) fun h => { h with failedStep := rfl }

theorem obey (hp : p.Fits s s') {c : Command} (hc : c ≠ .look) :
    InStep p (obey s c) (obey s' c) := by
  cases c with
  | submit text image =>
    refine bind (submit hp _ _) fun r => ?_
    cases r <;> exact pure _
  | retry =>
    refine bind (retry hp) fun r => ?_
    cases r <;> exact pure _
  | cancel => exact bind cancel fun _ => pure _
  | edit content => exact bind (editWith hp _) fun _ => pure _
  | switch c => exact bind (switch hp c) fun _ => pure _
  | startNew document =>
    have hnew : InStep p (newConversation document) (newConversation document) :=
      bind newId fun _ => bind timestamp fun _ => pure _
    exact bind hnew fun c => bind (switch hp c) fun _ => pure _
  | restore step => exact bind (restore step) fun _ => pure _
  | load c => exact bind (perform hp _) fun _ => pure _
  | configure mode maxTurns =>
    refine bind (update (fun _ => rfl) (fun _ => rfl) fun h => ?_) fun _ => ?_
    · exact { h with settings := by rw [h.settings] }
    · refine get fun h => ?_
      rw [h.settings]
      exact pure _
  | look => exact absurd rfl hc

end InStep

/-! ## events -/

theorem Event.ne_attached {e : Event} (he : e.isOfRun = true) : e ≠ .attached := by
  rintro rfl
  cases he

namespace Twins

open Moderator

variable [Nonempty σ] [Nonempty σ'] {p : Pairing σ σ'} {s : Surroundings σ} {s' : Surroundings σ'}
  {m : Moderator σ} {m' : Moderator σ'}

/-- once something has gone wrong with an audience it stays so -/
theorem fine_of_step (hp : p.Fits s s') (m : Moderator σ) (m' : Moderator σ') {e : Event}
    (he : e ≠ .attached) :
    (p.fine (m.step s e).audience → p.fine m.audience) ∧
      (p.fine' (m'.step s' e).audience → p.fine' m'.audience) := by
  cases e with
  | told c =>
    by_cases hc : c = .look
    · subst hc
      exact ⟨id, id⟩
    · exact ⟨(InStep.obey hp hc).fine m, (InStep.obey hp hc).fine' m'⟩
  | replied reply => exact ⟨(InStep.resume hp reply).fine m, (InStep.resume hp reply).fine' m'⟩
  | attached => exact absurd rfl he
  | passed now clock => exact ⟨id, id⟩

/-- whatever happens to two moderators side by side: only the conversations that wait may differ -/
theorem step (hp : p.Fits s s') (h : Twins p m m') {e : Event} (he : e ≠ .attached)
    (hfine : p.fine (m.step s e).audience) (hfine' : p.fine' (m'.step s' e).audience) :
    Twins p (m.step s e) (m'.step s' e) := by
  cases e with
  | told c =>
    by_cases hc : c = .look
    · subst hc
      exact h
    · exact ((InStep.obey hp hc).both h hfine hfine').2
  | replied reply => exact ((InStep.resume hp reply).both h hfine hfine').2
  | attached => exact absurd rfl he
  | passed now clock =>
    refine { h with supply := ?_, clock := rfl }
    exact congrArg (fun u : Supply => { u with now }) h.supply

theorem fine_of_during (hp : p.Fits s s') (m : Moderator σ) (m' : Moderator σ') {es : List Event}
    (hes : ∀ e ∈ es, e ≠ .attached) :
    (p.fine (m.during s es).audience → p.fine m.audience) ∧
      (p.fine' (m'.during s' es).audience → p.fine' m'.audience) := by
  induction es generalizing m m' with
  | nil => exact ⟨id, id⟩
  | cons e es ih =>
    have hrest := ih (m.step s e) (m'.step s' e) fun x hx => hes x (List.mem_cons_of_mem e hx)
    have hfirst := fine_of_step hp m m' (hes e List.mem_cons_self)
    constructor
    · rw [during]
      split
      · exact hfirst.1 ∘ hrest.1
      · exact id
    · rw [during]
      split
      · exact hfirst.2 ∘ hrest.2
      · exact id

/-- a run goes on in the same way, and ends at the same event -/
theorem during (hp : p.Fits s s') (h : Twins p m m') {es : List Event}
    (hes : ∀ e ∈ es, e ≠ .attached) (hfine : p.fine (m.during s es).audience)
    (hfine' : p.fine' (m'.during s' es).audience) : Twins p (m.during s es) (m'.during s' es) := by
  induction es generalizing m m' with
  | nil => exact h
  | cons e es ih =>
    have htail : ∀ x ∈ es, x ≠ .attached := fun x hx => hes x (List.mem_cons_of_mem e hx)
    have hrest := fine_of_during hp (m.step s e) (m'.step s' e) htail
    cases hrun : m.running with
    | false =>
      rw [during_of_idle s hrun, during_of_idle s' (h.running.trans hrun)]
      exact h
    | true =>
      rw [during_cons s hrun] at hfine ⊢
      rw [during_cons s' (h.running.trans hrun)] at hfine' ⊢
      have hstep := h.step hp (hes e List.mem_cons_self) (hrest.1 hfine) (hrest.2 hfine')
      exact ih hstep htail hfine hfine'

end Twins

end Debate
