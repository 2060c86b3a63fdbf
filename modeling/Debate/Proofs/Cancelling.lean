import Debate.Proofs.Replaying
import Debate.Rehearsal

/-!
# Cancelling a run

A run that waits can be cancelled once. Then its reply does not matter any more, nor does it matter
whether one ever arrives: the run is settled with a notice, and the log is what it was. But a call
that raises an error before the run goes on is looked at first, and the run fails.

* `Rehearsal.Ending.fault?`    the error that a call raises, if it is no cancellation;
* `Waits`                      a run that waits, and the log that is left if it is cancelled;
* `CalledOff`                  a run that is settled as cancelled;
* `FailedAnyway`               a run that fails although it was cancelled.
-/

namespace Debate

open Debate.Number

variable {σ : Type}

/-! ## runs that wait -/

/-- the error that a call raises, if it is no cancellation -/
def Rehearsal.Ending.fault? : Ending → Option Fault
  | .fails e => if e = .cancelled ∨ e = .aborted then none else some e
  | .replies _ => none
  | .hangs => none

/-- a run that waits for a reply, and the log that is left if it is cancelled -/
inductive Waits (s : Surroundings σ) : Moderator σ → List Message → Prop where
  /-- a debate, any time after its request -/
  | debate {m : Moderator σ} {n : Int} {text : String} {image : Value} {es : List Event} :
      m.IsReady s n → (∀ e ∈ es, e.isOfRun = true) →
      ((m.step s (.told (.submit (.text text) image))).during s es).running = true →
      Waits s ((m.step s (.told (.submit (.text text) image))).during s es)
        ((m.step s (.told (.submit (.text text) image))).during s es).store.conversation.settled
  /-- a retry, any time after its start -/
  | retry {m : Moderator σ} {pre : List Message} {previous : Message} {post : List Message}
      {f : FailedStep} {es : List Event} :
      m.CanRetry s pre previous post f → (∀ e ∈ es, e.isBeside = true) →
      (m.step s (.told .retry)).running = true →
      Waits s ((m.step s (.told .retry)).during s es) m.messages

/-- a run that was settled as cancelled when its call came to an end: all that is left of it is a
notice, and an edit that was kept back has landed -/
structure CalledOff (s : Surroundings σ) (kept : List Message) (m m' : Moderator σ) : Prop where
  outcome : m'.lastOutcome = some .cancelled
  messages : ∃ id now, m'.messages = kept ++ [.notice id now Moderator.cancelledNotice]
  failedStep : m'.failedStep = m.failedStep
  document : m'.document =
      (if m.store.pendingEdit = .null then m.document else m.store.pendingEdit) ∨
    s.Asks (.edit m'.document)

/-- a run that failed when its call came to an end: the failure stands in the log and can be
retried, and there is no notice -/
structure FailedAnyway (e : Fault) (c : Call) (m' : Moderator σ) : Prop where
  outcome : m'.lastOutcome = some .failed
  message : ∃ x ∈ m'.messages, x.hasId c.messageId = true ∧ x.purpose = .error ∧
    x.text = .text (Message.errorText (Moderator.failureText e))
  failedStep : m'.failedStep.map (·.messageId) = some c.messageId

/-! ## debates -/

section

variable {s : Surroundings σ} {st : Settings} {query : String} {n : Int} {before : List Message}
  {rs : List Turn.Result} {c : Call} {xs : List Message} {m : Moderator σ}

/-- a debate whose last turn has no result failed, or was cancelled -/
theorem Closing.of_error {os : List (Except Fault Turn.Result)} {outcome : Outcome}
    {tail : List Message} (h : Closing s st n rs os outcome tail) {e : Fault}
    (hos : os = rs.map .ok ++ [.error e]) :
    (e = .cancelled ∨ e = .aborted) ∧ outcome = .cancelled ∧
        (∃ id now, tail = [.notice id now Moderator.cancelledNotice]) ∨
      (e ≠ .cancelled ∧ e ≠ .aborted) ∧ outcome = .failed ∧
        ∃ id now, tail = [(Message.placeholder id now (st.speaker rs.length).sender).failed
          (Moderator.failureText e)] := by
  have hno : ¬ (rs.map .ok : List (Except Fault Turn.Result)) = rs.map .ok ++ [.error e] := by
    intro heq
    simpa using congrArg List.length heq
  cases h with
  | exhausted => exact absurd hos hno
  | agreed => exact absurd hos hno
  | stopped => exact absurd hos hno
  | failed e' id now hc ha =>
    obtain rfl : e' = e := by simpa using hos
    exact .inr ⟨⟨hc, ha⟩, rfl, id, now, rfl⟩
  | cancelled e' id now he =>
    obtain rfl : e' = e := by simpa using hos
    exact .inl ⟨he, rfl, id, now, rfl⟩

/-- the notepad after a turn that ended without a result: an edit that was kept back has landed -/
theorem Unedited.document_given_up (hs : s.IsCalm) {e : Fault} {j : List Entry} {m' : Moderator σ}
    (h : Unedited s ((m.withJournal j).committed s c (.error e)) m') :
    m'.document = (if m.store.pendingEdit = .null then m.document else m.store.pendingEdit) ∨
      s.Asks (.edit m'.document) := by
  have hcommitted := Moderator.document_committed s c (.error e) (m.withJournal j) hs
  rcases h with h | h
  · rw [← h] at hcommitted
    exact hcommitted
  · exact .inr h

theorem Underway.calledOff (hs : s.IsCalm) (h : Underway st query n before rs c xs m)
    {reply : Except Fault Value} {e : Fault} (he : e = .cancelled ∨ e = .aborted)
    (hr : c.ending m.clock m.isCancelled reply = .error e) :
    (m.step s (.replied reply)).IsIdle ∧
      CalledOff s (before ++ xs) m (m.step s (.replied reply)) := by
  obtain ⟨hover, j, hland⟩ := h.over_cancelled hs he hr
  obtain ⟨outcome, tail, hout, hlog, hclosing, hstep⟩ := hover.closing
  rcases hclosing.of_error rfl with ⟨-, rfl, id, now, rfl⟩ | ⟨⟨hc, ha⟩, -⟩
  · refine ⟨hover.idle, hout, ⟨id, now, hlog⟩, ?_, hland.notepad.document_given_up hs⟩
    rw [h.failedStep]
    exact Option.map_eq_none_iff.mp hstep
  · rcases he with rfl | rfl
    · exact absurd rfl hc
    · exact absurd rfl ha

theorem Underway.failedAnyway (hs : s.IsCalm) (h : Underway st query n before rs c xs m)
    {reply : Except Fault Value} {e : Fault} (hc : e ≠ .cancelled) (ha : e ≠ .aborted)
    (hr : c.ending m.clock m.isCancelled reply = .error e) :
    (m.step s (.replied reply)).IsIdle ∧ FailedAnyway e c (m.step s (.replied reply)) := by
  obtain ⟨hover, hkept, -⟩ := h.over_failed hs hc ha hr
  obtain ⟨outcome, tail, hout, hlog, hclosing, hstep⟩ := hover.closing
  rcases hclosing.of_error rfl with ⟨he, -⟩ | ⟨-, rfl, id, now, rfl⟩
  · rcases he with rfl | rfl
    · exact absurd rfl hc
    · exact absurd rfl ha
  · have hid : c.messageId = .text id := by
      rw [hkept] at hstep
      exact Option.some.inj hstep
    refine ⟨hover.idle, hout, ⟨(Message.placeholder id now (st.speaker rs.length).sender).failed
      (Moderator.failureText e), ?_, ?_, rfl, rfl⟩, ?_⟩
    · rw [hlog]
      exact List.mem_append_right _ (List.mem_singleton.mpr rfl)
    · rw [hid]
      exact Value.same_text_self id
    · rw [hkept]
      rfl

end

/-! ## retries -/

namespace Retrying

variable {s : Surroundings σ} {m : Moderator σ} {pre : List Message} {previous : Message}
  {post : List Message} {f : FailedStep} {c : Call}

theorem calledOff (hs : s.IsCalm) (h : Retrying pre previous post f c m)
    {reply : Except Fault Value} {e : Fault} (he : e = .cancelled ∨ e = .aborted)
    (hr : c.ending m.clock m.isCancelled reply = .error e) :
    (m.step s (.replied reply)).IsIdle ∧
      CalledOff s (pre ++ previous :: post) m (m.step s (.replied reply)) := by
  have hend := (h.replayed hs reply).2
  rw [hr] at hend
  obtain ⟨id, now, hlog⟩ := hend.messages
  have hstep := hend.failedStep.trans h.failedStep.symm
  rcases he with rfl | rfl <;>
    exact ⟨hend.idle, hend.outcome, ⟨id, now, hlog⟩, hstep, hend.document⟩

theorem failedAnyway (hs : s.IsCalm) (h : Retrying pre previous post f c m)
    {reply : Except Fault Value} {e : Fault} (hc : e ≠ .cancelled) (ha : e ≠ .aborted)
    (hr : c.ending m.clock m.isCancelled reply = .error e) :
    (m.step s (.replied reply)).IsIdle ∧ FailedAnyway e c (m.step s (.replied reply)) := by
  have hend := (h.replayed hs reply).2
  rw [hr] at hend
  obtain ⟨id, now, hlog⟩ := hend.messages
  rw [Message.replayed_of_failed hc ha] at hlog
  refine ⟨hend.idle, hend.outcome.trans (congrArg some (retryOutcome_of_failed hc ha)),
    ⟨{ previous with
        text := .text (Message.errorText (Moderator.failureText e)), purpose := .error }, ?_, ?_, rfl, rfl⟩, ?_⟩
  · rw [hlog]
    exact List.mem_append_left _ (List.mem_append_right _ List.mem_cons_self)
  · rw [h.messageId]
    exact h.alone.self
  · rw [hend.failedStep, h.messageId, ← h.stepId]
    rfl

end Retrying

/-! ## runs of both kinds -/

/-- a run that waits for the reply to a call: a debate or a retry -/
def InRun (c : Call) (kept : List Message) (m : Moderator σ) : Prop :=
  (∃ st query n before rs xs, Underway st query n before rs c xs m ∧ kept = before ++ xs) ∨
    ∃ pre previous post f, Retrying pre previous post f c m ∧ kept = pre ++ previous :: post

namespace InRun

variable {s : Surroundings σ} {m : Moderator σ} {c : Call} {kept : List Message}

theorem running (h : InRun c kept m) : m.running = true := by
  rcases h with ⟨_, _, _, _, _, _, h, -⟩ | ⟨_, _, _, _, h, -⟩
  · exact h.running
  · exact h.running

theorem inFlight (h : InRun c kept m) : m.store.turnInFlight = true := by
  rcases h with ⟨_, _, _, _, _, _, h, -⟩ | ⟨_, _, _, _, h, -⟩
  · exact h.inFlight
  · exact h.inFlight

theorem call (h : InRun c kept m) : m.call = some c := by
  rcases h with ⟨_, _, _, _, _, _, h, -⟩ | ⟨_, _, _, _, h, -⟩
  · exact h.call
  · exact h.call

/-- what other tasks do leaves a run under way -/
theorem step_beside (h : InRun c kept m) (s : Surroundings σ) {e : Event}
    (he : e.isBeside = true) : InRun c kept (m.step s e) := by
  rcases h with ⟨st, query, n, before, rs, xs, h, hk⟩ | ⟨pre, previous, post, f, h, hk⟩
  · exact .inl ⟨st, query, n, before, rs, xs, h.step_beside s he, hk⟩
  · exact .inr ⟨pre, previous, post, f, h.step_beside s he, hk⟩

theorem during_beside (h : InRun c kept m) (s : Surroundings σ) {es : List Event}
    (hes : ∀ e ∈ es, e.isBeside = true) : InRun c kept (m.during s es) :=
  Moderator.during_keeps s (fun _ h => h.running) (fun _ _ h he => h.step_beside s he) h hes

theorem calledOff (hs : s.IsCalm) (h : InRun c kept m) {reply : Except Fault Value} {e : Fault}
    (he : e = .cancelled ∨ e = .aborted) (hr : c.ending m.clock m.isCancelled reply = .error e) :
    (m.step s (.replied reply)).IsIdle ∧ CalledOff s kept m (m.step s (.replied reply)) := by
  rcases h with ⟨st, query, n, before, rs, xs, h, rfl⟩ | ⟨pre, previous, post, f, h, rfl⟩
  · exact h.calledOff hs he hr
  · exact h.calledOff hs he hr

theorem failedAnyway (hs : s.IsCalm) (h : InRun c kept m) {reply : Except Fault Value} {e : Fault}
    (hc : e ≠ .cancelled) (ha : e ≠ .aborted)
    (hr : c.ending m.clock m.isCancelled reply = .error e) :
    (m.step s (.replied reply)).IsIdle ∧ FailedAnyway e c (m.step s (.replied reply)) := by
  rcases h with ⟨st, query, n, before, rs, xs, h, rfl⟩ | ⟨pre, previous, post, f, h, rfl⟩
  · exact h.failedAnyway hs hc ha hr
  · exact h.failedAnyway hs hc ha hr

end InRun

theorem Waits.inRun {s : Surroundings σ} (hs : s.IsCalm) {m : Moderator σ} {kept : List Message}
    (h : Waits s m kept) : ∃ c, InRun c kept m := by
  cases h with
  | @debate m₀ n text image es hm hes hrun =>
    have hstart := (Moderator.standing_submit hs hm text image).1
    rcases hstart.during hs hes with ⟨rs, c, xs, -, h⟩ | ⟨rs, xs, h⟩
    · exact ⟨c, .inl ⟨_, _, _, _, rs, xs, h, h.settled_eq⟩⟩
    · rw [h.idle.running] at hrun
      cases hrun
  | @retry m₀ pre previous post f es hm hes hrun =>
    obtain ⟨c, hc⟩ := Moderator.retrying_of_running hs hm hrun
    refine ⟨c, InRun.during_beside ?_ s hes⟩
    exact .inr ⟨pre, previous, post, f, hc, hm.messages⟩

namespace Moderator

variable {s : Surroundings σ} {m : Moderator σ}

/-- what cancels a run, and cancels it once -/
theorem carry_cancel_eq_true (h : (m.carry cancel).1 = .ok true) : m.token = some false := by
  rw [carry_cancel] at h
  split at h
  · assumption
  · cases h

theorem carry_cancel_eq_false (h : m.token ≠ some false) : (m.carry cancel).1 = .ok false := by
  rw [carry_cancel, if_neg h]

theorem token_step_cancel (s : Surroundings σ) (h : m.token = some false) :
    (m.step s (.told .cancel)).token = some true := by
  rw [step, obey, snd_carry_map _ _ _ fun _ _ => rfl, carry_cancel, if_pos h]

/-- a run that is cancelled stays so -/
theorem token_during (s : Surroundings σ) (hrun : m.running = true)
    (hflight : m.store.turnInFlight = true) (ht : m.token = some true) {es : List Event}
    (hes : ∀ e ∈ es, e.isBeside = true) : (m.during s es).token = some true := by
  rcases (beside_during s hrun hflight hes).1.token with h | ⟨-, h⟩
  · exact h.trans ht
  · exact h

/-- how a turn ends whose run was cancelled before: an error is looked at first -/
theorem ending_of_cancelled (c : Call) (clock : Double) (e : Rehearsal.Ending) :
    ∃ e', c.ending clock true (Rehearsal.replyOf { ending := e } false) = .error e' ∧
      match e.fault? with
      | none => e' = .cancelled ∨ e' = .aborted
      | some f => e' = f ∧ f ≠ .cancelled ∧ f ≠ .aborted := by
  cases e with
  | replies v => exact ⟨.cancelled, rfl, .inl rfl⟩
  | hangs => exact ⟨.cancelled, rfl, .inl rfl⟩
  | fails f =>
    refine ⟨f, rfl, ?_⟩
    by_cases hf : f = .cancelled ∨ f = .aborted
    · rw [Rehearsal.Ending.fault?, if_pos hf]
      exact hf
    · rw [Rehearsal.Ending.fault?, if_neg hf]
      exact ⟨rfl, fun h => hf (.inl h), fun h => hf (.inr h)⟩

/-- a run that waits is cancelled, anything may happen beside it, and its call comes to an end: then
it cannot be cancelled again, and it is settled as cancelled exactly if the call raised no error -/
theorem cancelled_run (hs : s.IsCalm) {kept : List Message} (h : Waits s m kept)
    (hcancel : (m.carry cancel).1 = .ok true) {es : List Event}
    (hes : ∀ e ∈ es, e.isBeside = true) (e : Rehearsal.Ending) :
    let m₁ := m.during s (.told .cancel :: es)
    let m' := m₁.step s (.replied (Rehearsal.replyOf { ending := e } false))
    (m₁.carry cancel).1 = .ok false ∧ (m'.carry cancel).1 = .ok false ∧ m'.IsIdle ∧
      m₁.document = m.document ∧
      m₁.store.pendingEdit = (lastEdit es).getD m.store.pendingEdit ∧
      match e.fault? with
      | none => CalledOff s kept m₁ m'
      | some f => ∃ c, m.call = some c ∧ FailedAnyway f c m' := by
  intro m₁ m'
  obtain ⟨c, hc⟩ := h.inRun hs
  have hopen := carry_cancel_eq_true hcancel
  have hcancelled := hc.step_beside (e := .told .cancel) s rfl
  have hlater : m₁ = (m.step s (.told .cancel)).during s es := during_cons s hc.running _ es
  have hwaits : InRun c kept m₁ := hlater ▸ hcancelled.during_beside s hes
  have htoken : m₁.token = some true :=
    hlater ▸ token_during s hcancelled.running hcancelled.inFlight (token_step_cancel s hopen) hes
  have hall : ∀ x ∈ Event.told .cancel :: es, x.isBeside = true := by
    intro x hx
    rcases List.mem_cons.mp hx with rfl | hx
    · rfl
    · exact hes x hx
  obtain ⟨hbeside, hedit⟩ := beside_during s hc.running hc.inFlight hall
  have hlast : lastEdit (.told .cancel :: es) = lastEdit es := by
    rw [lastEdit_cons, show (Event.told .cancel).edit? = none from rfl]
    cases lastEdit es <;> rfl
  have hstopped : m₁.isCancelled = true := by
    rw [isCancelled, htoken]
    rfl
  obtain ⟨e', hending, he'⟩ := ending_of_cancelled c m₁.clock e
  rw [← hstopped] at hending
  have hend : m'.IsIdle ∧ match e.fault? with
      | none => CalledOff s kept m₁ m'
      | some f => ∃ c, m.call = some c ∧ FailedAnyway f c m' := by
    cases hf : e.fault? with
    | none =>
      rw [hf] at he'
      exact hwaits.calledOff hs he' hending
    | some f =>
      rw [hf] at he'
      obtain ⟨rfl, hnc, hna⟩ := he'
      exact (hwaits.failedAnyway hs hnc hna hending).imp_right fun h => ⟨c, hc.call, h⟩
  refine ⟨carry_cancel_eq_false ?_, carry_cancel_eq_false ?_, hend.1, ?_, ?_, hend.2⟩
  · rw [htoken]
    decide
  · rw [hend.1.token]
    decide
  · exact congrArg Conversation.document hbeside.conversation
  · rw [← hlast]
    exact hedit

/-- a debate that waits for its first reply -/
def asked : Moderator Unit :=
  (opened.step .silent (.told (.submit (.text "Go") .null))).during .silent []

theorem waits_asked : Waits .silent asked asked.store.conversation.settled := by
  have hrun : asked.running = true := by decide +kernel
  unfold asked at hrun ⊢
  exact .debate isReady_opened nofun hrun

/-- a reply that comes after its run was cancelled is not looked at -/
theorem cancelled_run_asked :
    Surroundings.silent.IsCalm ∧ Waits .silent asked asked.store.conversation.settled ∧
      (asked.carry cancel).1 = .ok true ∧
      ((asked.during .silent [.told .cancel]).step .silent
        (.replied (.ok (.text "late")))).lastOutcome = some .cancelled := by
  have hcancel : (asked.carry cancel).1 = .ok true := by
    rw [carry_cancel, if_pos (by decide +kernel)]
  refine ⟨Surroundings.isCalm_silent, waits_asked, hcancel, ?_⟩
  have hes : ∀ e ∈ ([] : List Event), e.isBeside = true := nofun
  obtain ⟨-, -, -, -, -, hend⟩ := cancelled_run Surroundings.isCalm_silent waits_asked hcancel hes
    (.replies (.text "late"))
  exact hend.outcome

/-- an error that is raised after its run was cancelled wins: the run is settled as failed, with an
error in the log and a failed step, and without a notice -/
theorem error_after_cancel :
    Waits .silent asked asked.store.conversation.settled ∧ (asked.carry cancel).1 = .ok true ∧
      let m := (asked.during .silent [.told .cancel]).step .silent
        (.replied (.error (.provider "down")))
      m.lastOutcome = some .failed ∧ m.failedStep.isSome = true ∧
        m.messages.map (·.text) = [.text "Go", .text "Error: down"] := by
  refine ⟨waits_asked, ?_, ?_⟩
  · rw [carry_cancel, if_pos (by decide +kernel)]
  · decide +kernel

end Moderator

end Debate
