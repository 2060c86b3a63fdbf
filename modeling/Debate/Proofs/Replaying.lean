import Debate.Proofs.Document
import Debate.Proofs.Retrying

/-!
# What a retry leaves

A retry sends the prompt as it was sent before, once. However its turn ends, only the message of the
turn changes: it gets the new reply, or the new failure, or is put back as it was. At most one notice
comes behind the log.

* `Message.replayed`       the message of a turn that was taken once more;
* `Moderator.playedBack`   the moderator after the turn of a retry, before the retry is settled;
* `Replayed`               what a retry leaves;
* `Retrying.replayed`      a reply ends a retry;
* `Moderator.retry_frame`  a retry from its start to its end.
-/

namespace Debate

open Debate.Number

variable {σ : Type}

/-- the message of a turn that was taken once more -/
def Message.replayed (previous : Message) : Except Fault Turn.Result → Message
  | .ok r => { previous with
      text := .text r.text, durationMs := .int r.durationMs, purpose := .agentToAgent }
  | .error .cancelled => previous
  | .error .aborted => previous
  | .error e => { previous with
      text := .text (errorText (Moderator.failureText e)), purpose := .error }

/-- the notice that a retry leaves behind the log, if it leaves one -/
def retryNotice? : Outcome → Option String
  | .complete => some Moderator.retryNotice
  | .cancelled => some Moderator.cancelledNotice
  | .failed => none

/-- the step that can be retried after a retry: the same one, unless the turn went well -/
def FailedStep.replayed? {α : Type} (f : FailedStep) : Except Fault α → Option FailedStep
  | .ok _ => none
  | .error _ => some f

/-- what a retry leaves: one message has changed, at most one notice was added, and the notepad is
the one given unless a listener asks for an edit -/
structure Replayed (s : Surroundings σ) (pre : List Message) (previous : Message)
    (post : List Message) (f : FailedStep) (r : Except Fault Turn.Result) (notepad : Value)
    (m : Moderator σ) : Prop where
  idle : m.IsIdle
  outcome : m.lastOutcome = some (retryOutcome r)
  messages : ∃ id now, m.messages = pre ++ previous.replayed r :: post ++
    ((retryNotice? (retryOutcome r)).map (Message.notice id now)).toList
  failedStep : m.failedStep = f.replayed? r
  document : m.document = notepad ∨ s.Asks (.edit m.document)

/-- a turn that has no result changes the text of a failed message at most -/
theorem Message.replayed_error {previous : Message} (hp : previous.purpose = .error) (e : Fault) :
    previous.replayed (.error e) =
      { previous with text := (previous.replayed (.error e)).text } := by
  cases e with
  | cancelled => rfl
  | aborted => rfl
  | _ => simp only [Message.replayed, hp]

theorem Message.replayed_of_failed {e : Fault} (hc : e ≠ .cancelled) (ha : e ≠ .aborted)
    (previous : Message) :
    previous.replayed (.error e) = { previous with
      text := .text (errorText (Moderator.failureText e)), purpose := .error } := by
  cases e with
  | cancelled => exact absurd rfl hc
  | aborted => exact absurd rfl ha
  | _ => rfl

theorem Message.pending_replayed {previous : Message} (h : previous.pending = false)
    (r : Except Fault Turn.Result) : (previous.replayed r).pending = false := by
  rcases r with (_ | _) | _ <;> exact h

namespace Moderator

variable {s : Surroundings σ} {m : Moderator σ}

/-- the moderator after the turn of a retry: if it went well there is nothing to retry any more -/
def playedBack {α : Type} (s : Surroundings σ) (r : Except Fault α) (m : Moderator σ) :
    Moderator σ :=
  match r with
  | .ok _ => { m with failedStep := none }.appended s fun id now => .notice id now retryNotice
  | .error _ => m

/-- the notice that a turn that went well leaves before its retry is settled -/
def playedNotice {α : Type} (r : Except Fault α) (id now : String) : List Message :=
  match r with
  | .ok _ => [.notice id now retryNotice]
  | .error _ => []

theorem carry_continueRetry (hs : s.IsCalm) (c : Call) (previous : Message)
    (reply : Except Fault Value) (m : Moderator σ) :
    ∃ i j k l, m.carry (continueRetry s c previous reply) =
      let r := c.ending m.clock m.isCancelled reply
      (retryAnswer r,
        (((((((m.withJournal i).committed s c r).withJournal j).playedBack s r).withJournal
          k).mended s previous r).settled s (retryOutcome r)).withJournal l) := by
  obtain ⟨i, j, hfin⟩ := carry_finishTurn hs c reply m
  cases hr : c.ending m.clock m.isCancelled reply with
  | error e =>
    rw [hr] at hfin
    obtain ⟨k, l, hl⟩ := carry_settleRetry hs c.persona previous (.error e)
      (((m.withJournal i).committed s c (.error e)).withJournal j)
    refine ⟨i, j, k, l, ?_⟩
    rw [continueRetry, carry_attempt_bind (carry_bind_error hfin _), hl]
    cases e <;> rfl
  | ok r =>
    rw [hr] at hfin
    generalize hm₁ : ((m.withJournal i).committed s c (.ok r)).withJournal j = m₁ at hfin
    have hplayed : m.carry (do
        let _ ← finishTurn s c reply
        modify fun m => { m with failedStep := none }
        notify s retryNotice) = (.ok (), m₁.playedBack s (Except.ok r)) := by
      rw [carry_bind_ok (hfin.trans (congrArg _ hm₁)), carry_bind_ok (carry_modify m₁ _)]
      exact carry_notify hs _ _
    obtain ⟨k, l, hl⟩ := carry_settleRetry hs c.persona previous (.ok ())
      (m₁.playedBack s (Except.ok r))
    refine ⟨i, j, k, l, ?_⟩
    rw [continueRetry, carry_attempt_bind hplayed, hl, ← hm₁]
    rfl

theorem failedStep_mended {α : Type} (s : Surroundings σ) (previous : Message)
    (r : Except Fault α) (m : Moderator σ) : (m.mended s previous r).failedStep = m.failedStep := by
  cases r with
  | ok _ => rfl
  | error e => cases e <;> exact failedStep_dispatched s _ m

/-! ### what stays as it is -/

/-- a change of the log between turns: nothing that a turn is about changes with it, unless a listener
asks for an edit -/
structure LogOnly (s : Surroundings σ) (m m' : Moderator σ) : Prop where
  call : m'.call = m.call
  inFlight : m'.store.turnInFlight = m.store.turnInFlight
  pendingEdit : m.store.turnInFlight = false → m'.store.pendingEdit = m.store.pendingEdit
  notepad : Unedited s m m'

namespace LogOnly

variable {m' m'' : Moderator σ}

theorem refl (s : Surroundings σ) (m : Moderator σ) : LogOnly s m m :=
  ⟨rfl, rfl, fun _ => rfl, .inl rfl⟩

theorem trans (h : LogOnly s m m') (h' : LogOnly s m' m'') : LogOnly s m m'' where
  call := h'.call.trans h.call
  inFlight := h'.inFlight.trans h.inFlight
  pendingEdit hf := (h'.pendingEdit (h.inFlight.trans hf)).trans (h.pendingEdit hf)
  notepad := h.notepad.trans h'.notepad

theorem withJournal (j : List Entry) (h : LogOnly s m m') : LogOnly s m (m'.withJournal j) :=
  ⟨h.call, h.inFlight, h.pendingEdit, h.notepad⟩

theorem dispatched (s : Surroundings σ) (m : Moderator σ) {a : Action}
    (ha : (m.store.conversation.apply a).document = m.document) :
    LogOnly s m (m.dispatched s a) where
  call := call_dispatched s a m
  inFlight := turnInFlight_dispatched s a m
  pendingEdit := pendingEdit_dispatched_of_landed s a m
  notepad := (document_dispatched s a m).imp (·.trans ha) And.right

theorem mended (s : Surroundings σ) (previous : Message) {α : Type} (r : Except Fault α)
    (m : Moderator σ) : LogOnly s m (m.mended s previous r) := by
  cases r with
  | ok _ => exact refl s m
  | error e => cases e <;> exact dispatched s m rfl

theorem playedBack (s : Surroundings σ) {α : Type} (r : Except Fault α) (m : Moderator σ) :
    LogOnly s m (m.playedBack s r) := by
  cases r with
  | ok _ =>
    have h := dispatched s { m with failedStep := none, supply := m.supply.draw.2 }
      (a := .append (.notice m.supply.draw.1 m.supply.timestamp retryNotice)) rfl
    exact ⟨h.call, h.inFlight, h.pendingEdit, h.notepad⟩
  | error _ => exact refl s m

end LogOnly

end Moderator

/-! ## a reply in a retry -/

namespace Message

variable {previous : Message}

theorem resolved_reopened (h : previous.pending = false) (r : Turn.Result) :
    previous.reopened.resolved (.text r.text) (.int r.durationMs) = previous.replayed (.ok r) := by
  simp only [resolved, reopened, replayed, h]

theorem failed_reopened (h : previous.pending = false) {e : Fault} (hc : e ≠ .cancelled)
    (ha : e ≠ .aborted) :
    previous.reopened.failed (Moderator.failureText e) = previous.replayed (.error e) := by
  rw [replayed_of_failed hc ha, failed, reopened, h]

end Message

namespace Retrying

open Moderator

variable {s : Surroundings σ} {m : Moderator σ} {pre : List Message} {previous : Message}
  {post : List Message} {f : FailedStep} {c : Call}

theorem messages_mended (h : Alone pre previous post) (s : Surroundings σ) {e : Fault}
    {m : Moderator σ} (hm : m.messages = pre ++ previous.reopened :: post) :
    (m.mended s previous (.error e : Except Fault Turn.Result)).messages =
      pre ++ previous.replayed (.error e) :: post := by
  -- cancelled or aborted, the message is put back as it was; otherwise it is an error again
  have hpending := h.settled previous (List.mem_append_right _ List.mem_cons_self)
  have hreplace : (m.dispatched s (.replace previous)).messages = pre ++ previous :: post := by
    rw [messages_dispatched]
    change (m.messages.map fun x => if x.hasId previous.id then previous else x) = _
    rw [hm]
    exact h.map_of_id (fun _ => previous) (Message.id_reopened previous)
  by_cases hc : e = .cancelled
  · subst hc
    exact hreplace
  by_cases ha : e = .aborted
  · subst ha
    exact hreplace
  rw [mended_of_failed hc ha, messages_dispatched]
  change (m.messages.map fun x =>
    if x.hasId previous.id then x.failed (failureText e) else x) = _
  rw [hm, h.map_of_id _ (Message.id_reopened previous), Message.failed_reopened hpending hc ha]

theorem messages_replied (h : Retrying pre previous post f c m) (s : Surroundings σ)
    (r : Except Fault Turn.Result) (i j k : List Entry) :
    ∃ id now,
      ((((((m.withJournal i).committed s c r).withJournal j).playedBack s r).withJournal k).mended s
          previous r).messages =
        pre ++ previous.replayed r :: post ++ playedNotice r id now := by
  have hpending := h.alone.settled previous (List.mem_append_right _ List.mem_cons_self)
  cases r with
  | error e =>
    refine ⟨"", "", (messages_mended h.alone s ?_).trans (List.append_nil _).symm⟩
    exact (Moderator.messages_committed s c (.error e) (m.withJournal i)).trans h.log
  | ok r =>
    have hcommitted : ((m.withJournal i).committed s c (.ok r)).messages =
        pre ++ previous.replayed (.ok r) :: post := by
      rw [Moderator.messages_committed]
      change (m.messages.map fun x =>
        if x.hasId c.messageId then x.resolved (.text r.text) (.int r.durationMs) else x) = _
      rw [h.log, h.messageId, h.alone.map_of_id _ (Message.id_reopened previous),
        Message.resolved_reopened hpending]
    generalize (m.withJournal i).committed s c (.ok r) = m₁ at hcommitted
    refine ⟨m₁.supply.draw.1, m₁.supply.timestamp, ?_⟩
    rw [← hcommitted]
    exact messages_appended s (fun id now => .notice id now retryNotice)
      { m₁.withJournal j with failedStep := none }

theorem failedStep_played {α : Type} (s : Surroundings σ) (previous : Message) (r : Except Fault α)
    (j k : List Entry) {m : Moderator σ} (hm : m.failedStep = some f) :
    ((((m.withJournal j).playedBack s r).withJournal k).mended s previous r).failedStep =
      f.replayed? r := by
  rw [failedStep_mended]
  cases r with
  | ok _ =>
    change ((m.withJournal j).playedBack s (Except.ok _)).failedStep = none
    rw [playedBack, failedStep_appended]
  | error e => exact hm

theorem settled_replied (h : Alone pre previous post) (s : Surroundings σ)
    {r : Except Fault Turn.Result} {m : Moderator σ}
    (hm : ∃ id now, m.messages = pre ++ previous.replayed r :: post ++ playedNotice r id now) :
    ∃ id now, (m.settled s (retryOutcome r)).messages = pre ++ previous.replayed r :: post ++
      ((retryNotice? (retryOutcome r)).map (Message.notice id now)).toList := by
  obtain ⟨id, now, hm⟩ := hm
  have hpending := h.settled previous (List.mem_append_right _ List.mem_cons_self)
  have hsettled := h.settled_of (Message.pending_replayed hpending r)
  rw [Moderator.messages_settled, Conversation.settled,
    show m.store.conversation.messages = _ from hm, List.filter_append, hsettled]
  cases r with
  | ok r => exact ⟨id, now, List.append_nil _⟩
  | error e =>
    refine ⟨m.supply.draw.1, m.supply.timestamp, ?_⟩
    rw [playedNotice, List.filter_nil, List.append_nil]
    cases e <;> rfl

theorem replayed_settled (h : Alone pre previous post) {r : Except Fault Turn.Result}
    {m : Moderator σ}
    (hlog : ∃ id now, m.messages = pre ++ previous.replayed r :: post ++ playedNotice r id now)
    (hstep : m.failedStep = f.replayed? r) (hcall : m.call = none)
    (hflight : m.store.turnInFlight = false) (hedit : m.store.pendingEdit = .null)
    {notepad : Value} (hnotepad : m.document = notepad ∨ s.Asks (.edit m.document))
    (l : List Entry) :
    Replayed s pre previous post f r notepad ((m.settled s (retryOutcome r)).withJournal l) := by
  have hidle : (m.settled s (retryOutcome r)).IsIdle := isIdle_settled s _ hcall hflight hedit
  obtain ⟨id', now', hsettled⟩ := settled_replied h s hlog
  refine ⟨⟨hidle.running, hidle.token, hidle.call, hidle.inFlight, hidle.pendingEdit⟩, rfl,
    ⟨id', now', hsettled⟩, (failedStep_settled s _ m).trans hstep, ?_⟩
  rcases Unedited.settled s (retryOutcome r) m with hd | hasks
  · exact hnotepad.imp (hd.trans ·) fun hasks => by rwa [← hd] at hasks
  · exact .inr hasks

theorem replayed (hs : s.IsCalm) (h : Retrying pre previous post f c m)
    (reply : Except Fault Value) :
    let r := c.ending m.clock m.isCancelled reply
    (m.carry (resume s reply)).1 = (retryAnswer r).map (some <| Settled.retry ·) ∧
      Replayed s pre previous post f r
        (if m.store.pendingEdit = .null then Turn.made m.document r else m.store.pendingEdit)
        (m.step s (.replied reply)) := by
  intro r
  obtain ⟨i, j, k, l, hcarry⟩ := carry_continueRetry hs c previous reply m
  have hanswer : (m.carry (resume s reply)).1 = (retryAnswer r).map (some <| Settled.retry ·) := by
    rw [resume, carry_bind_ok (carry_get m), h.call]
    simp only [h.task]
    rw [carry_bind, hcarry]
    dsimp only
    rcases retryAnswer r with _ | _ <;> rfl
  refine ⟨hanswer, ?_⟩
  rw [step_replied_retry h.call h.task, hcarry]
  change Replayed s pre previous post f r _ ((((((((m.withJournal i).committed s c r).withJournal
    j).playedBack s r).withJournal k).mended s previous r).settled s (retryOutcome r)).withJournal l)
  generalize hm₁ : (m.withJournal i).committed s c r = m₁
  have hlog := hm₁ ▸ h.messages_replied s r i j k
  have hstep := failedStep_played s previous r j k
    (show m₁.failedStep = some f by rw [← hm₁, failedStep_committed]; exact h.failedStep)
  -- the store was left in order by the turn, and neither the notice nor the mending touches it
  have hkept := (LogOnly.withJournal j (.refl s m₁)).trans <|
    ((LogOnly.playedBack s r _).withJournal k).trans (LogOnly.mended s previous r _)
  have hcall : m₁.call = none := by rw [← hm₁, call_committed]
  have hflight : m₁.store.turnInFlight = false := by rw [← hm₁, turnInFlight_committed]
  have hedit : m₁.store.pendingEdit = .null := by rw [← hm₁, pendingEdit_committed]
  have hdocument := document_committed s c r (m.withJournal i) hs
  rw [hm₁] at hdocument
  refine replayed_settled h.alone hlog hstep (hkept.call.trans hcall)
    (hkept.inFlight.trans hflight) ((hkept.pendingEdit hflight).trans hedit) ?_ l
  rcases hkept.notepad with hd | hasks
  · exact hdocument.imp (hd.trans ·) fun hasks => by rwa [← hd] at hasks
  · exact .inr hasks

/-- what happens while the reply is waited for, and the reply -/
theorem replayed_taken (hs : s.IsCalm) (h : Retrying pre previous post f c m)
    (hp : previous.purpose = .error) (hedit : m.store.pendingEdit = .null) {t : Taken}
    (ht : t.IsBeside) {d : String} (hd : m.document = .text d) :
    let waiting := m.during s t.asides
    let r := c.ending waiting.clock waiting.isCancelled t.reply
    waiting.call = some c ∧
      (waiting.carry (resume s t.reply)).1 = (retryAnswer r).map (some <| Settled.retry ·) ∧
      (∀ e, r = .error e →
        previous.replayed r = { previous with text := (previous.replayed r).text }) ∧
      Replayed s pre previous post f r (t.leaves d r) (m.during s t.events) := by
  intro waiting r
  have hwaits : Retrying pre previous post f c waiting :=
    during_keeps s (fun _ h => h.running) (fun _ _ h he => h.step_beside s he) h ht
  obtain ⟨hbeside, hpending⟩ := beside_during s h.running h.inFlight ht
  have hsame : waiting.document = .text d :=
    (congrArg Conversation.document hbeside.conversation).trans hd
  obtain ⟨hanswer, hend⟩ := hwaits.replayed hs t.reply
  rw [hpending, hedit, hsame, Taken.leaves_eq ht (h.document.trans hd) rfl] at hend
  refine ⟨hwaits.call, hanswer, ?_, ?_⟩
  · intro e he
    rw [he]
    exact Message.replayed_error hp e
  · rw [Taken.events, during_append, during_cons s hwaits.running, during_nil]
    exact hend

end Retrying

/-! ## a retry from its start to its end -/

namespace Moderator

variable {s : Surroundings σ} {m : Moderator σ} {pre : List Message} {previous : Message}
  {post : List Message} {f : FailedStep}

/-- what a listener can do when the message of a failed turn is reopened -/
theorem logOnly_reopened (s : Surroundings σ) (previous : Message) (m : Moderator σ) :
    LogOnly s m (m.reopened s previous) :=
  let h := LogOnly.dispatched s (a := .reopen previous.id)
    { m with token := some false, running := true } rfl
  ⟨h.call, h.inFlight, h.pendingEdit, h.notepad⟩

/-- a listener that cancels a retry at once leaves what was there before, and a notice -/
theorem replayed_reopened (hm : m.CanRetry s pre previous post f) (j k l : List Entry) :
    Replayed s pre previous post f (.error .cancelled) m.document
      ((((((m.withJournal j).reopened s previous).withJournal k).dispatched s
        (.replace previous)).settled s .cancelled).withJournal l) := by
  generalize hm' : ((m.withJournal j).reopened s previous).withJournal k = m'
  have hreopened : m'.messages = pre ++ previous.reopened :: post :=
    hm' ▸ hm.messages_reopened j
  have hlog : (m'.dispatched s (.replace previous)).messages = _ :=
    Retrying.messages_mended hm.alone s (e := .cancelled) hreopened
  have hstep : (m'.dispatched s (.replace previous)).failedStep = some f := by
    rw [failedStep_dispatched, ← hm']
    exact (failedStep_dispatched s _ _).trans hm.failedStep
  have hopen : LogOnly s m m' :=
    hm' ▸ (LogOnly.withJournal j (.refl s m)).trans ((logOnly_reopened s previous _).withJournal k)
  have hkept : LogOnly s m (m'.dispatched s (.replace previous)) :=
    hopen.trans (LogOnly.dispatched s m' rfl)
  generalize m'.dispatched s (.replace previous) = m₃ at hlog hstep hkept
  exact Retrying.replayed_settled (r := .error .cancelled) hm.alone
    ⟨"", "", hlog.trans (List.append_nil _).symm⟩ hstep (hkept.call.trans hm.idle.call)
    (hkept.inFlight.trans hm.idle.inFlight)
    ((hkept.pendingEdit hm.idle.inFlight).trans hm.idle.pendingEdit) hkept.notepad l

/-- a retry from its start to its end, whatever its reply is and whatever other tasks do meanwhile:
the prompt is sent as it was before, once, and the retry leaves what it should; a listener may cancel
it before anything is sent -/
theorem retry_frame (hs : s.IsCalm) (hm : m.CanRetry s pre previous post f)
    (hp : previous.purpose = .error) {d₀ : String} (hd : m.document = .text d₀) {t : Taken}
    (ht : t.IsBeside) :
    let started := m.step s (.told .retry)
    (m.carry (retry s)).1 = .ok (some false) ∧ s.Asks .cancel ∧
        Replayed s pre previous post f (.error .cancelled) m.document started ∨
      (m.carry (retry s)).1 = .ok none ∧ ∃ c d, started.call = some c ∧ c.prompt = f.prompt ∧
        started.document = .text d ∧ Unedited s m started ∧
        let waiting := started.during s t.asides
        let r := c.ending waiting.clock waiting.isCancelled t.reply
        waiting.call = some c ∧
          (waiting.carry (resume s t.reply)).1 = (retryAnswer r).map (some <| Settled.retry ·) ∧
          (∀ e, r = .error e →
            previous.replayed r = { previous with text := (previous.replayed r).text }) ∧
          Replayed s pre previous post f r (t.leaves d r) (started.during s t.events) := by
  intro started
  obtain ⟨voice, persona, j, hstart⟩ := hm.startable
  obtain ⟨k, l, hj⟩ := hstart.carry_retry hs
  have hstarted : started = (m.carry (retry s)).2 := step_retry s m
  cases hc : ((m.withJournal j).reopened s previous).isCancelled with
  | true =>
    left
    simp only [hc, if_true] at hj
    have hasks : s.Asks .cancel := by
      rcases token_dispatched s (.reopen previous.id)
        { m.withJournal j with token := some false, running := true } with ht | ⟨-, -, hasks⟩
      · rw [isCancelled, show ((m.withJournal j).reopened s previous).token = some false from ht] at hc
        cases hc
      · exact hasks
    refine ⟨congrArg Prod.fst hj, hasks, ?_⟩
    rw [hstarted, hj]
    exact replayed_reopened hm j k l
  | false =>
    right
    simp only [hc, Bool.false_eq_true, if_false] at hj
    have hstate : started = (((m.withJournal j).reopened s previous).withJournal k).waitingFor
        (((m.withJournal j).reopened s previous).retryCall voice persona previous f) := by
      rw [hstarted, hj]
    have hkept : LogOnly s m ((m.withJournal j).reopened s previous) :=
      (LogOnly.withJournal j (.refl s m)).trans (logOnly_reopened s previous _)
    have hedit : started.store.pendingEdit = .null := by
      rw [hstate]
      exact (hkept.pendingEdit hm.idle.inFlight).trans hm.idle.pendingEdit
    have hnotepad : Unedited s m started := by
      rw [hstate]
      exact hkept.notepad
    have hrun : started.running = true := by
      rw [hstate]
      exact running_dispatched s _ _
    obtain ⟨c, h⟩ := retrying_of_running hs hm hrun
    obtain ⟨d, hd'⟩ := hnotepad.text hs hd
    exact ⟨congrArg Prod.fst hj, c, d, h.call, h.prompt, hd', hnotepad,
      h.replayed_taken hs hp hedit ht hd'⟩

/-- a turn that failed, and can be taken once more -/
def stumbled : Moderator Unit :=
  { opened with
    store := { conversation := {
      id := .text "", createdAt := .text ""
      messages := [(Message.placeholder "x" "" .agentA).failed "down"] } }
    failedStep := some { messageId := .text "x", prompt := .text "Go on.", sender := .agentA } }

theorem canRetry_stumbled :
    stumbled.CanRetry .silent [] ((Message.placeholder "x" "" .agentA).failed "down") []
      { messageId := .text "x", prompt := .text "Go on.", sender := .agentA } where
  alone := ⟨by decide, rfl, nofun⟩
  idle := ⟨rfl, rfl, rfl, rfl, rfl⟩
  messages := rfl
  failedStep := rfl
  messageId := rfl
  prompt := ⟨_, rfl⟩
  debater := ⟨_, rfl⟩
  voice := .inl rfl
  turns := rfl

/-- an edit that comes in during a retry stays, and the retry is settled -/
theorem retry_frame_stumbled :
    Surroundings.silent.IsCalm ∧
      (∃ previous f, stumbled.CanRetry .silent [] previous [] f ∧ previous.purpose = .error) ∧
      stumbled.document = .text "" ∧ overruled.IsBeside ∧
      ((stumbled.step .silent (.told .retry)).during .silent overruled.events).IsIdle ∧
      ((stumbled.step .silent (.told .retry)).during .silent overruled.events).document =
        .text "mine" := by
  refine ⟨Surroundings.isCalm_silent, ⟨_, _, canRetry_stumbled, rfl⟩, rfl, isBeside_overruled, ?_⟩
  rcases retry_frame Surroundings.isCalm_silent canRetry_stumbled rfl rfl isBeside_overruled with
    ⟨-, hasks, -⟩ | ⟨-, c, d, -, -, -, -, -, -, -, hend⟩
  · exact absurd hasks (Surroundings.not_asks_silent _)
  · refine ⟨hend.idle, hend.document.elim (fun hd => hd.trans rfl) fun hasks => ?_⟩
    exact absurd hasks (Surroundings.not_asks_silent _)

end Moderator

end Debate
