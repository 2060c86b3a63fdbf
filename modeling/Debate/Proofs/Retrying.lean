import Debate.Proofs.Shape

/-!
# A failed turn, taken once more

A retry reopens the message of the turn that failed, and waits. A reply that goes well resolves the
message; if the retry is cancelled the message is put back as it was, and if it fails once more the
new failure takes the place of the old one.

* `Alone`                  a settled log in which no other message has the id of a given one;
* `Moderator.CanRetry`     a failed turn that can be taken once more;
* `Retrying`               a retry that waits for its reply;
* `Moderator.carry_settleRetry`  the end of a retry, summed up once;
* `Moderator.Startable`    a failed turn whose message, persona and service are found;
* `Moderator.Startable.carry_retry`  a retry that is started waits, unless a listener cancels it at
                           once;
* `Retrying.step_beside`   what other tasks do meanwhile.
-/

namespace Debate

open Debate.Number

variable {σ : Type}

/-! ## the message of a failed turn -/

/-- a settled log in which no other message has the id of a given one -/
structure Alone (pre : List Message) (previous : Message) (post : List Message) : Prop where
  settled : ∀ x ∈ pre ++ previous :: post, x.pending = false
  self : previous.hasId previous.id = true
  others : ∀ x ∈ pre ++ post, x.hasId previous.id = false

namespace Alone

variable {pre : List Message} {previous : Message} {post : List Message}

/-- a change of the messages of the id changes the one message alone -/
theorem map_of_id (h : Alone pre previous post) (f : Message → Message) {y : Message}
    (hy : y.id = previous.id) :
    (pre ++ y :: post).map (fun x => if x.hasId previous.id then f x else x) =
      pre ++ f y :: post := by
  have hself : y.hasId previous.id = true := by
    rw [Message.hasId, hy]
    exact h.self
  exact map_of_hasId f h.others hself

theorem find? (h : Alone pre previous post) :
    (pre ++ previous :: post).find? (·.hasId previous.id) = some previous := by
  have hpre : pre.find? (·.hasId previous.id) = none := by
    refine List.find?_eq_none.mpr fun x hx => ?_
    rw [h.others x (List.mem_append_left _ hx)]
    exact Bool.false_ne_true
  rw [List.find?_append, hpre, Option.none_or]
  exact List.find?_cons_of_pos h.self

/-- nothing is pending after the message was replaced by one that is not -/
theorem settled_of (h : Alone pre previous post) {y : Message} (hy : y.pending = false) :
    (pre ++ y :: post).filter (fun x => !x.pending) = pre ++ y :: post := by
  refine List.filter_eq_self.mpr fun x hx => ?_
  rcases List.mem_append.mp hx with hx | hx
  · rw [h.settled x (List.mem_append_left _ hx)]
    rfl
  · rcases List.mem_cons.mp hx with rfl | hx
    · rw [hy]
      rfl
    · rw [h.settled x (List.mem_append_right _ (List.mem_cons_of_mem _ hx))]
      rfl

end Alone

/-! ## how a retry ends -/

/-- how a retry is settled -/
def retryOutcome {α : Type} : Except Fault α → Outcome
  | .ok _ => .complete
  | .error .cancelled => .cancelled
  | .error .aborted => .cancelled
  | .error _ => .failed

/-- what a retry answers: whether its turn went well, unless the task that waits for it was called
off -/
def retryAnswer {α : Type} : Except Fault α → Except Fault Bool
  | .ok _ => .ok true
  | .error .aborted => .error .aborted
  | .error _ => .ok false

theorem retryOutcome_of_failed {α : Type} {e : Fault} (hc : e ≠ .cancelled) (ha : e ≠ .aborted) :
    retryOutcome (.error e : Except Fault α) = .failed := by
  cases e with
  | cancelled => exact absurd rfl hc
  | aborted => exact absurd rfl ha
  | _ => rfl

/-! ## a retry that waits -/

/-- a retry that waits for its reply -/
structure Retrying (pre : List Message) (previous : Message) (post : List Message)
    (f : FailedStep) (c : Call) (m : Moderator σ) : Prop where
  alone : Alone pre previous post
  running : m.running = true
  token : m.token ≠ none
  inFlight : m.store.turnInFlight = true
  pendingEdit : m.store.pendingEdit = .null ∨ ∃ t, m.store.pendingEdit = .text t
  failedStep : m.failedStep = some f
  stepId : f.messageId = previous.id
  call : m.call = some c
  task : c.task = .retry previous
  messageId : c.messageId = previous.id
  prompt : c.prompt = f.prompt
  document : c.document = m.document
  log : m.messages = pre ++ previous.reopened :: post

namespace Moderator

variable {s : Surroundings σ} {m : Moderator σ} {pre : List Message} {previous : Message}
  {post : List Message} {f : FailedStep}

/-- a failed turn that can be taken once more -/
structure CanRetry (s : Surroundings σ) (pre : List Message) (previous : Message)
    (post : List Message) (f : FailedStep) (m : Moderator σ) : Prop where
  alone : Alone pre previous post
  idle : m.IsIdle
  messages : m.messages = pre ++ previous :: post
  failedStep : m.failedStep = some f
  messageId : f.messageId = previous.id
  prompt : ∃ t, f.prompt = .text t
  debater : ∃ persona, m.settings.debater f.sender = .ok persona
  voice : s.HasVoice m.settings
  turns : m.settings.hasTooFewTurns = .ok false

/-- the moderator after the message of a failed turn was reopened -/
def reopened (s : Surroundings σ) (previous : Message) (m : Moderator σ) : Moderator σ :=
  dispatched s (.reopen previous.id) { m with token := some false, running := true }

/-- only the message of the failed turn is reopened -/
theorem CanRetry.messages_reopened (hm : m.CanRetry s pre previous post f) (j : List Entry) :
    ((m.withJournal j).reopened s previous).messages = pre ++ previous.reopened :: post := by
  refine (messages_dispatched s _ _).trans ?_
  change (m.messages.map fun x => if x.hasId previous.id then x.reopened else x) = _
  rw [hm.messages, hm.alone.map_of_id _ rfl]

/-- a failed turn that nothing keeps from being taken once more: its message, its persona and a
service are found -/
structure Startable (s : Surroundings σ) (voice : Voice) (persona : Persona) (previous : Message)
    (f : FailedStep) (j : List Entry) (m : Moderator σ) : Prop where
  running : m.running = false
  failedStep : m.failedStep = some f
  found : m.store.conversation.find? f.messageId = some previous
  messageId : f.messageId = previous.id
  prompt : ∃ t, f.prompt = .text t
  debater : m.settings.debater f.sender = .ok persona
  voice : m.carry (chooseVoice s) = (.ok voice, m.withJournal j)

theorem CanRetry.startable (hm : m.CanRetry s pre previous post f) :
    ∃ voice persona j, m.Startable s voice persona previous f j := by
  obtain ⟨persona, hpersona⟩ := hm.debater
  obtain ⟨voice, j, hj⟩ := carry_chooseVoice hm.voice hm.turns
  have hfind : m.store.conversation.find? f.messageId = some previous := by
    rw [hm.messageId, Conversation.find?, show m.store.conversation.messages = _ from hm.messages]
    exact hm.alone.find?
  exact ⟨voice, persona, j, hm.idle.running, hm.failedStep, hfind, hm.messageId, hm.prompt,
    hpersona, hj⟩

/-- the start of a retry -/
theorem carry_retry (hs : s.IsCalm) {voice : Voice} {persona : Persona} {j : List Entry}
    (hm : m.Startable s voice persona previous f j) :
    ∃ k, m.carry (retry s) =
      let m' := ((m.withJournal j).reopened s previous).withJournal k
      m'.carry (do
        match ← attempt (startTurn s (.retry previous) voice persona previous.id f.prompt
            m'.document) with
        | .ok () => return none
        | .error e => return some (← settleRetry s persona previous (.error e))) := by
  refine ⟨((m.withJournal j).reopened s previous).journal ++ [.liveAt
      ((m.withJournal j).reopened s previous).supply.now ("RETRY: " ++ persona.title)], ?_⟩
  rw [retry, carry_bind_ok (carry_get m), hm.failedStep]
  dsimp only
  rw [hm.running, if_neg Bool.false_ne_true]
  simp only [hm.found, hm.debater]
  rw [carry_bind_ok hm.voice, carry_bind_ok (carry_markRunning _), hm.messageId,
    carry_bind_ok (carry_dispatch hs rfl), carry_bind_ok (carry_live ..),
    carry_bind_ok (carry_get _)]
  rfl

/-! ### settling -/

/-- the moderator after the message of a retry was put in order: a turn that was cancelled leaves it
as it was, and one that failed puts its failure into it -/
def mended {α : Type} (s : Surroundings σ) (previous : Message) (r : Except Fault α)
    (m : Moderator σ) : Moderator σ :=
  match r with
  | .ok _ => m
  | .error .cancelled => m.dispatched s (.replace previous)
  | .error .aborted => m.dispatched s (.replace previous)
  | .error e => m.dispatched s (.fail previous.id (failureText e))

theorem mended_of_failed {α : Type} {e : Fault} (hc : e ≠ .cancelled) (ha : e ≠ .aborted)
    (previous : Message) (m : Moderator σ) :
    m.mended s previous (.error e : Except Fault α) =
      m.dispatched s (.fail previous.id (failureText e)) := by
  cases e with
  | cancelled => exact absurd rfl hc
  | aborted => exact absurd rfl ha
  | _ => rfl

/-- the end of a retry, in one piece -/
theorem carry_settleRetry (hs : s.IsCalm) (persona : Persona) (previous : Message)
    (r : Except Fault Unit) (m : Moderator σ) :
    ∃ j k, m.carry (settleRetry s persona previous r) =
      (retryAnswer r,
        (((m.withJournal j).mended s previous r).settled s (retryOutcome r)).withJournal k) := by
  have hclose (outcome : Outcome) (e : Option Fault) (m' : Moderator σ) : ∃ k, m'.carry (do
      finish s outcome
      raise e
      return (decide (outcome = .complete))) =
        (e.elim (.ok (decide (outcome = .complete))) .error,
          (m'.settled s outcome).withJournal k) := by
    obtain ⟨k, hk⟩ := carry_finish hs outcome m'
    refine ⟨k, ?_⟩
    rw [carry_bind_ok hk]
    cases e <;> rfl
  have hreplace : m.carry (dispatch s (.replace previous)) =
      (.ok (), m.dispatched s (.replace previous)) := carry_dispatch hs rfl
  cases r with
  | ok _ =>
    obtain ⟨k, hk⟩ := hclose .complete none m
    exact ⟨m.journal, k, hk⟩
  | error e =>
    by_cases hc : e = .cancelled
    · subst hc
      obtain ⟨k, hk⟩ := hclose .cancelled none (m.dispatched s (.replace previous))
      refine ⟨m.journal, k, ?_⟩
      rw [settleRetry, carry_attempt_bind (carry_bind_ok hreplace _)]
      exact hk
    by_cases ha : e = .aborted
    · subst ha
      obtain ⟨k, hk⟩ := hclose .cancelled (some .aborted) (m.dispatched s (.replace previous))
      refine ⟨m.journal, k, ?_⟩
      rw [settleRetry, carry_attempt_bind (carry_bind_ok hreplace _)]
      exact hk
    obtain ⟨j, hj⟩ := carry_reportFailure hs persona previous.id e m
    obtain ⟨k, hk⟩ := hclose .failed none
      ((m.withJournal j).dispatched s (.fail previous.id (failureText e)))
    refine ⟨j, k, ?_⟩
    cases e with
    | cancelled => exact absurd rfl hc
    | aborted => exact absurd rfl ha
    | _ => exact (carry_attempt_bind (carry_bind_ok hj _) _).trans hk

/-! ### the start, and the reply -/

/-- the call of a retry -/
def retryCall (voice : Voice) (persona : Persona) (previous : Message) (f : FailedStep)
    (m : Moderator σ) : Call where
  task := .retry previous
  voice := voice
  persona := persona
  messageId := previous.id
  prompt := f.prompt
  document := m.document
  started := m.clock

/-- a retry that is started waits for its reply, unless a listener cancels it at once -/
theorem Startable.carry_retry (hs : s.IsCalm) {voice : Voice} {persona : Persona} {j : List Entry}
    (hm : m.Startable s voice persona previous f j) :
    ∃ k l, m.carry (retry s) =
      let m' := (m.withJournal j).reopened s previous
      if m'.isCancelled then
        (.ok (some false),
          (((m'.withJournal k).dispatched s (.replace previous)).settled s .cancelled).withJournal l)
      else (.ok none, (m'.withJournal k).waitingFor (m'.retryCall voice persona previous f)) := by
  obtain ⟨i, hi⟩ := Moderator.carry_retry hs hm
  obtain ⟨t, ht⟩ := hm.prompt
  obtain ⟨k, hk⟩ := carry_startTurn s (((m.withJournal j).reopened s previous).withJournal i)
    (.retry previous) voice persona previous.id
    (((m.withJournal j).reopened s previous).withJournal i).document t
  rw [isCancelled_withJournal] at hk
  rw [hi]
  dsimp only
  cases hc : ((m.withJournal j).reopened s previous).isCancelled with
  | true =>
    obtain ⟨k', l, hl⟩ := carry_settleRetry hs persona previous (.error .cancelled)
      (((m.withJournal j).reopened s previous).withJournal i)
    rw [hc, if_pos rfl] at hk
    refine ⟨k', l, ?_⟩
    rw [ht, carry_attempt_bind hk, if_pos rfl]
    exact carry_bind_ok hl _
  | false =>
    rw [hc, if_neg Bool.false_ne_true] at hk
    refine ⟨k, [], ?_⟩
    rw [ht, carry_attempt_bind hk, if_neg Bool.false_ne_true, retryCall, ht]
    rfl

theorem step_retry (s : Surroundings σ) (m : Moderator σ) :
    m.step s (.told .retry) = (m.carry (retry s)).2 := by
  rw [step, obey, snd_carry_map _ _ _ fun a _ => by cases a <;> rfl]

/-- a retry that is started and not settled waits for its reply -/
theorem retrying_of_running (hs : s.IsCalm) (hm : m.CanRetry s pre previous post f)
    (hrun : (m.step s (.told .retry)).running = true) :
    ∃ c, Retrying pre previous post f c (m.step s (.told .retry)) := by
  obtain ⟨voice, persona, j, hstart⟩ := hm.startable
  obtain ⟨k, l, hj⟩ := hstart.carry_retry hs
  rw [step_retry, hj] at hrun ⊢
  dsimp only at hrun ⊢
  split at hrun
  · cases hrun
  rename_i hopen
  rw [if_neg hopen]
  have hedit : ((m.withJournal j).reopened s previous).store.pendingEdit = .null := by
    refine (pendingEdit_dispatched_of_landed s _ _ ?_).trans hm.idle.pendingEdit
    exact hm.idle.inFlight
  refine ⟨_, hm.alone, ?_, ?_, rfl, .inl hedit, ?_, hm.messageId, rfl, rfl, rfl, rfl, rfl,
    hm.messages_reopened j⟩
  · exact running_dispatched s _ _
  · rcases token_dispatched s (.reopen previous.id)
      { m.withJournal j with token := some false, running := true } with ht | ⟨-, ht, -⟩
    · exact fun h => Option.some_ne_none _ (ht.symm.trans h)
    · exact fun h => Option.some_ne_none _ (ht.symm.trans h)
  · exact (failedStep_dispatched s _ _).trans hm.failedStep

/-- the step that a reply in a retry makes -/
theorem step_replied_retry {c : Call} (hc : m.call = some c) (ht : c.task = .retry previous)
    (reply : Except Fault Value) :
    m.step s (.replied reply) = (m.carry (continueRetry s c previous reply)).2 := by
  rw [step, resume, carry_bind_ok (carry_get m), hc]
  simp only [ht]
  rw [snd_carry_map _ _ _ fun _ _ => rfl]

end Moderator

namespace Retrying

variable {s : Surroundings σ} {m : Moderator σ} {pre : List Message} {previous : Message}
  {post : List Message} {f : FailedStep} {c : Call}

/-- what other tasks do beside a retry leaves it under way -/
theorem step_beside (h : Retrying pre previous post f c m) (s : Surroundings σ) {e : Event}
    (he : e.isBeside = true) : Retrying pre previous post f c (m.step s e) := by
  have hb := (Moderator.beside_step s h.running h.inFlight he).1
  have hmessages : (m.step s e).messages = m.messages := congrArg (·.messages) hb.conversation
  have hdocument : (m.step s e).document = m.document := congrArg (·.document) hb.conversation
  exact { h with
    running := hb.running.trans h.running
    token := hb.token_ne_none h.token
    inFlight := hb.turnInFlight.trans h.inFlight
    pendingEdit := Moderator.pendingEdit_step s h.running h.inFlight he h.pendingEdit
    failedStep := hb.failedStep.trans h.failedStep
    call := hb.call.trans h.call
    document := h.document.trans hdocument.symm
    log := hmessages.trans h.log }

end Retrying

end Debate
