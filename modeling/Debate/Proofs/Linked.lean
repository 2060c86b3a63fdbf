import Debate.Proofs.Sound

/-!
# Failed steps and the messages that they name

A failed step names the message of the turn that failed. Debates and retries put that message in
order in different ways: a turn that fails makes it an error, a retry opens it, and a retry that does
not go well makes it an error again or puts it back. This module follows the step and the message
through all of that.

* `FailedStep.Names`          a failed step names a message of a log;
* `Moderator.LinkedAtRest`    an idle moderator, whose failed step names a message of its log;
* `Moderator.LinkedInDebate`  a debate that waits, without a failed step;
* `Moderator.LinkedInRetry`   a retry that waits, for the message that its failed step names;
* `Continued.linked`, `Replied.linked_debate`, `Replied.linked_retry`, `Reopened.linked`
                              what becomes of a run;
* `Moderator.LinkedAtRest.step`, `Moderator.LinkedInDebate.step`, `Moderator.LinkedInRetry.step`
                              what becomes of each of them with an event.
-/

namespace Debate

variable {σ : Type}

/-! ## the message of a failed step -/

/-- a failed step names a message of a log: no other has its id, it is an error of the step's sender,
and no message after it is an error -/
structure FailedStep.Names (f : FailedStep) (pre : List Message) (x : Message)
    (post : List Message) : Prop where
  id : x.hasId f.messageId = true
  alone : ∀ y ∈ pre ++ post, y.hasId f.messageId = false
  settled : x.pending = false
  purpose : x.purpose = .error
  text : ∃ e, x.text = .text (Message.errorText e)
  sender : x.sender = f.sender
  later : ∀ y ∈ post, y.purpose ≠ .error

/-- a failed step names some message of a log -/
def FailedStep.NamesIn (f : FailedStep) (xs : List Message) : Prop :=
  ∃ pre x post, xs = pre ++ x :: post ∧ f.Names pre x post

namespace FailedStep.Names

variable {f : FailedStep} {pre post : List Message} {x : Message}

theorem of_subset (h : f.Names pre x post) {pre' post' : List Message} (hpre : pre' ⊆ pre)
    (hpost : post' ⊆ post) : f.Names pre' x post' :=
  ⟨h.id, fun y hy => h.alone y ((List.mem_append.mp hy).elim
      (fun hy => List.mem_append_left _ (hpre hy)) fun hy => List.mem_append_right _ (hpost hy)),
    h.settled, h.purpose, h.text, h.sender, fun y hy => h.later y (hpost hy)⟩

theorem concat (h : f.Names pre x post) {y : Message} (hid : y.hasId f.messageId = false)
    (hpurpose : y.purpose ≠ .error) : f.Names pre x (post ++ [y]) := by
  refine ⟨h.id, fun z hz => ?_, h.settled, h.purpose, h.text, h.sender, fun z hz => ?_⟩
  · rw [← List.append_assoc] at hz
    rcases List.mem_append.mp hz with hz | hz
    · exact h.alone z hz
    · rw [List.mem_singleton.mp hz]
      exact hid
  · rcases List.mem_append.mp hz with hz | hz
    · exact h.later z hz
    · rw [List.mem_singleton.mp hz]
      exact hpurpose

/-- the turn fails once more: the new failure takes the place of the old one -/
theorem failed (h : f.Names pre x post) (e : String) : f.Names pre (x.reopened.failed e) post :=
  ⟨h.id, h.alone, rfl, rfl, ⟨e, rfl⟩, h.sender, h.later⟩

theorem find? (h : f.Names pre x post) :
    (pre ++ x :: post).find? (·.hasId f.messageId) = some x := by
  have hpre : pre.find? (·.hasId f.messageId) = none := by
    refine List.find?_eq_none.mpr fun y hy => ?_
    rw [h.alone y (List.mem_append_left _ hy)]
    exact Bool.false_ne_true
  rw [List.find?_append, hpre, Option.none_or]
  exact List.find?_cons_of_pos h.id

/-- the settled messages of a log hold the message as well -/
theorem settled_eq (h : f.Names pre x post) :
    (pre ++ x :: post).filter (fun y => !y.pending) =
      pre.filter (fun y => !y.pending) ++ x :: post.filter (fun y => !y.pending) := by
  rw [List.filter_append, List.filter_cons_of_pos (by rw [h.settled]; rfl)]

theorem filtered (h : f.Names pre x post) :
    f.Names (pre.filter fun y => !y.pending) x (post.filter fun y => !y.pending) :=
  h.of_subset (List.filter_subset_self _) (List.filter_subset_self _)

end FailedStep.Names

theorem Supply.IsFresh.hasId_eq_false {u : Supply} {xs : List Message} (hu : u.IsFresh xs)
    {f : FailedStep} {pre post : List Message} {x : Message} (hxs : xs = pre ++ x :: post)
    (h : f.Names pre x post) {t : String} (ht : f.messageId = .text t) {y : Message}
    (hy : y.id = .text u.draw.1) : y.hasId f.messageId = false := by
  -- the next id is not that of the message, and that is the id that the step names
  have hx := hu.unused u.drawn (Nat.le_refl _) x (by rw [hxs]; simp)
  have hid := h.id
  rw [Message.hasId, ht] at hid ⊢
  rw [Message.hasId, Value.eq_of_same_text hid, Value.same_text] at hx
  rw [hy, Value.same_text]
  exact beq_eq_false_iff_ne.mpr (beq_eq_false_iff_ne.mp hx).symm

/-! ## moderators -/

namespace Moderator

/-- an idle moderator, whose failed step names a message of its log -/
structure LinkedAtRest (m : Moderator σ) : Prop where
  running : m.running = false
  names : ∀ f, m.failedStep = some f → f.NamesIn m.messages
  outcome : m.failedStep ≠ none → m.lastOutcome ≠ some .complete

/-- a debate that waits for a reply: it has no failed step, and its placeholder is the last message -/
structure LinkedInDebate (m : Moderator σ) (c : Call) : Prop where
  call : m.call = some c
  task : ∃ p, c.task = .debate p
  failedStep : m.failedStep = none
  log : ∃ before id now, m.messages = before ++ [.placeholder id now c.persona.sender] ∧
    c.messageId = .text id ∧ ∀ y ∈ before, y.hasId (.text id) = false

/-- a retry that waits for a reply: its message is open, and was named by the failed step -/
structure LinkedInRetry (m : Moderator σ) (c : Call) (f : FailedStep) : Prop where
  call : m.call = some c
  failedStep : m.failedStep = some f
  log : ∃ pre previous post, c.task = .retry previous ∧ f.messageId = previous.id ∧
    m.messages = pre ++ previous.reopened :: post ∧ f.Names pre previous post

variable {s : Surroundings σ} {m m' : Moderator σ}

theorem LinkedAtRest.of_none (hrun : m.running = false) (hstep : m.failedStep = none) :
    m.LinkedAtRest := by
  refine ⟨hrun, fun f hf => ?_, fun h => absurd hstep h⟩
  rw [hstep] at hf
  cases hf

/-- a run that is settled keeps what its failed step names: a notice may be added behind it -/
theorem IsSound.names_settled (hm : m.IsSound) {f : FailedStep} {t : String}
    (ht : f.messageId = .text t) (h : f.NamesIn m.messages) (outcome : Outcome) :
    f.NamesIn (m.settled s outcome).messages := by
  obtain ⟨pre, x, post, hlog, hnames⟩ := h
  rw [messages_settled, Conversation.settled, show m.store.conversation.messages = _ from hlog,
    hnames.settled_eq]
  split
  · -- the notice has an id of its own, and is no error
    have hid := hm.log.fresh.hasId_eq_false hlog hnames ht
      (y := .notice m.supply.draw.1 m.supply.timestamp cancelledNotice) rfl
    exact ⟨_, x, _, by rw [List.append_assoc, List.cons_append], hnames.filtered.concat hid (by rintro ⟨⟩)⟩
  · exact ⟨_, x, _, List.append_nil _, hnames.filtered⟩

end Moderator

section

open Moderator

variable {s : Surroundings σ} {m m' : Moderator σ} {c : Call}

/-! ## what becomes of a run -/

theorem Follows.settled_eq {o : Outcome} (h : Follows (settled s o) m m') :
    m'.running = false ∧ m'.lastOutcome = some o ∧ m'.failedStep = m.failedStep := by
  obtain ⟨j, k, rfl⟩ := h
  exact ⟨rfl, rfl, failedStep_settled s o _⟩

theorem Follows.linked_settled {o : Outcome} (h : Follows (settled s o) m m') (hm : m.IsSound)
    {f : FailedStep} {t : String} (ht : f.messageId = .text t) (hstep : m.failedStep = some f)
    (hnames : f.NamesIn m.messages) (ho : o ≠ .complete) : m'.LinkedAtRest := by
  obtain ⟨hrun, hout, hkept⟩ := h.settled_eq
  refine ⟨hrun, fun g hg => ?_, fun _ hcomplete => ?_⟩
  · rw [hkept, hstep] at hg
    cases hg
    obtain ⟨j, k, rfl⟩ := h
    exact (hm.withJournal j).names_settled ht hnames o
  · rw [hout] at hcomplete
    exact ho (Option.some.inj hcomplete)

theorem Follows.failedStep_appended {make : String → String → Message}
    (h : Follows (appended s make) m m') : m'.failedStep = m.failedStep := by
  obtain ⟨j, k, rfl⟩ := h
  exact Moderator.failedStep_appended s make _

/-- a debate between two turns: without a failed step it waits or comes to its end without one -/
theorem Continued.linked (h : Continued s m m') (hm : m.IsSound) (hstep : m.failedStep = none) :
    (∃ c, m'.LinkedInDebate c) ∨ m'.running = false ∧ m'.failedStep = none := by
  have ended {o : Outcome} {n n' : Moderator σ} (hend : Follows (settled s o) n n')
      (hn : n.failedStep = none) : n'.running = false ∧ n'.failedStep = none := by
    obtain ⟨hrun, -, hkept⟩ := hend.settled_eq
    exact ⟨hrun, hkept.trans hn⟩
  cases h with
  | @waits m₁ c p d t hplaced htask hid hdocument hprompt =>
    refine .inl ⟨c, rfl, ⟨p, htask⟩, hplaced.failedStep_appended.trans hstep,
      m.messages, m.supply.draw.1, m.supply.timestamp, ?_, hid, fun y hy => ?_⟩
    · obtain ⟨j, k, rfl⟩ := hplaced
      exact messages_appended s (fun id now => .placeholder id now c.persona.sender) _
    · exact hm.log.fresh.unused _ (Nat.le_refl _) y hy
  | stopped hend => exact .inr (ended hend hstep)
  | stoppedLate hplaced hend =>
    exact .inr (ended hend (hplaced.failedStep_appended.trans hstep))
  | complete hend => exact .inr (ended hend hstep)
  | agreed hsaid hend => exact .inr (ended hend (hsaid.failedStep_appended.trans hstep))
  | failed hend => exact .inr (ended hend hstep)

theorem Follows.committed_eq {r : Except Fault Turn.Result} (h : Follows (committed s c r) m m') :
    m'.failedStep = m.failedStep ∧ ∀ e, r = .error e → m'.messages = m.messages := by
  obtain ⟨j, k, rfl⟩ := h
  refine ⟨failedStep_committed s c r _, fun e he => ?_⟩
  subst he
  exact messages_committed s c _ _

/-- a reply in a debate: only a turn that fails leaves a failed step, and it names the message of that
turn -/
theorem Replied.linked_debate (h : Replied s c m m') (hm : m.IsSound) (hl : m.LinkedInDebate c) :
    (∃ c', m'.LinkedInDebate c') ∨
      m'.LinkedAtRest ∧ (m'.lastOutcome ≠ some .failed → m'.failedStep = none) := by
  cases h with
  | went _ _ hturn hrest =>
    have hm₁ := hturn.isSound hm fun _ hn => hn.committed s c _
    have hstep := hturn.committed_eq.1.trans hl.failedStep
    rcases hrest.linked hm₁ hstep with hwaits | ⟨hrun, hnone⟩
    · exact .inl hwaits
    · exact .inr ⟨.of_none hrun hnone, fun _ => hnone⟩
  | cancelled _ hturn hend =>
    obtain ⟨hrun, -, hkept⟩ := hend.settled_eq
    have hnone := hkept.trans (hturn.committed_eq.1.trans hl.failedStep)
    exact .inr ⟨.of_none hrun hnone, fun _ => hnone⟩
  | @broke m₁ m₂ _ _ e _ hturn hbroken hend =>
    obtain ⟨before, id, now, hlog, hid, hothers⟩ := hl.log
    have hm₂ := hbroken.isSound (hturn.isSound hm fun _ hn => hn.committed s c _)
      fun _ hn => hn.broken s c e
    have hlog₁ : m₁.messages = before ++ [.placeholder id now c.persona.sender] :=
      (hturn.committed_eq.2 e rfl).trans hlog
    generalize hf : ({ messageId := c.messageId, prompt := c.prompt, sender := c.persona.sender } :
      FailedStep) = f
    have hstep : m₂.failedStep = some f := by
      obtain ⟨j, k, rfl⟩ := hbroken
      rw [← hf]
      rfl
    -- the placeholder was the last message, so nothing comes after the failure
    have hnames : f.NamesIn m₂.messages := by
      refine ⟨before, (Message.placeholder id now c.persona.sender).failed (failureText e), [], ?_, ?_⟩
      · obtain ⟨j, k, rfl⟩ := hbroken
        refine (messages_broken s c e _).trans ?_
        change (m₁.messages.map fun x =>
          if x.hasId c.messageId then x.failed (failureText e) else x) = _
        rw [hlog₁, hid, map_concat_of_id _ hothers (hasId_placeholder id now _)]
      · rw [← hf]
        refine ⟨?_, fun y hy => ?_, rfl, rfl, ⟨_, rfl⟩, rfl, nofun⟩
        · change Message.hasId _ c.messageId = true
          rw [hid]
          exact hasId_placeholder id now c.persona.sender
        · change y.hasId c.messageId = false
          rw [hid]
          exact hothers y (by simpa using hy)
    have htext : f.messageId = .text id := by
      rw [← hf]
      exact hid
    refine .inr ⟨hend.linked_settled hm₂ htext hstep hnames (by decide), fun hfailed => ?_⟩
    exact absurd hend.settled_eq.2.1 hfailed
  | replayed htask _ _ _ _ _ =>
    obtain ⟨p, hp⟩ := hl.task
    rw [hp] at htask
    cases htask

/-- a turn that was taken once more and did not go well: its message is put back, or is an error again -/
theorem names_mended {pre post : List Message} {previous : Message} {f : FailedStep}
    (hid : f.messageId = previous.id) (hlog : m.messages = pre ++ previous.reopened :: post)
    (h : f.Names pre previous post) (e : Fault) :
    f.NamesIn (m.mended s previous (.error e : Except Fault Turn.Result)).messages := by
  have hself : previous.reopened.hasId previous.id = true := hid ▸ h.id
  have hothers : ∀ y ∈ pre ++ post, y.hasId previous.id = false := fun y hy => hid ▸ h.alone y hy
  have hback : f.NamesIn (m.dispatched s (.replace previous)).messages := by
    refine ⟨pre, previous, post, ?_, h⟩
    rw [messages_dispatched]
    change (m.messages.map fun x => if x.hasId previous.id then previous else x) = _
    rw [hlog, map_of_hasId (fun _ => previous) hothers hself]
  have hagain : f.NamesIn (m.dispatched s (.fail previous.id (failureText e))).messages := by
    refine ⟨pre, previous.reopened.failed (failureText e), post, ?_, h.failed _⟩
    rw [messages_dispatched]
    change (m.messages.map fun x =>
      if x.hasId previous.id then x.failed (failureText e) else x) = _
    rw [hlog, map_of_hasId _ hothers hself]
  cases e with
  | cancelled => exact hback
  | aborted => exact hback
  | _ => exact hagain

/-- a reply in a retry: the failed step goes if the turn went well, and stays as it is otherwise -/
theorem Replied.linked_retry (h : Replied s c m m') (hm : m.IsSound) {f : FailedStep} {t : String}
    (ht : f.messageId = .text t) (hl : m.LinkedInRetry c f) :
    m'.LinkedAtRest ∧
      m'.failedStep = if m'.lastOutcome = some .complete then none else some f := by
  obtain ⟨pre, previous, post, htask, hid, hlog, hnames⟩ := hl.log
  -- the call belongs to a retry, so the other three ways are those of a debate
  cases h with
  | @replayed m₁ m₂ m₃ _ previous' r htask' _ hturn hplayed hmended hend =>
    obtain rfl : previous = previous' := Task.retry.inj (htask.symm.trans htask')
    obtain ⟨hrun, hout, hkept⟩ := hend.settled_eq
    cases r with
    | ok r =>
      have hnone : m₂.failedStep = none := by
        obtain ⟨j, k, rfl⟩ := hplayed
        exact Moderator.failedStep_appended s (fun id now => .notice id now retryNotice)
          { m₁.withJournal j with failedStep := none }
      have hnone' : m'.failedStep = none := by
        rw [hkept]
        obtain ⟨j, k, rfl⟩ := hmended
        exact hnone
      have hcomplete : m'.lastOutcome = some .complete := hout
      refine ⟨.of_none hrun hnone', ?_⟩
      rw [hnone', if_pos hcomplete]
    | error e =>
      have hm₁ := hturn.isSound hm fun _ hn => hn.committed s c _
      obtain ⟨hstep₁, hlog₁⟩ := hturn.committed_eq
      have hsame : m₂.failedStep = some f ∧ m₂.messages = pre ++ previous.reopened :: post := by
        obtain ⟨j, k, rfl⟩ := hplayed
        exact ⟨hstep₁.trans hl.failedStep, (hlog₁ e rfl).trans hlog⟩
      have hm₂ := hplayed.isSound hm₁ fun _ hn => hn.playedBack s _
      have hm₃ := hmended.isSound hm₂ fun _ hn => hn.mended s (hm.retried c previous hl.call htask) _
      have hstep : m₃.failedStep = some f := by
        obtain ⟨j, k, rfl⟩ := hmended
        exact (failedStep_mended s previous _ _).trans hsame.1
      have hnames₃ : f.NamesIn m₃.messages := by
        obtain ⟨j, k, rfl⟩ := hmended
        exact names_mended (m := m₂.withJournal j) hid hsame.2 hnames e
      have hbad : retryOutcome (.error e : Except Fault Turn.Result) ≠ .complete := by
        cases e <;> nofun
      refine ⟨hend.linked_settled hm₃ ht hstep hnames₃ hbad, ?_⟩
      rw [hout, if_neg fun h => hbad (Option.some.inj h), hkept, hstep]
  | went htask' _ _ _ =>
    rw [htask] at htask'
    cases htask'
  | cancelled htask' _ _ =>
    rw [htask] at htask'
    cases htask'
  | broke htask' _ _ _ =>
    rw [htask] at htask'
    cases htask'

/-- a failed turn is to be taken once more: whether it waits, is refused or is cancelled at once, the
failed step stays as it is -/
theorem Reopened.linked (h : Reopened s m m') (hm : m.IsSound) (hrest : m.Rests)
    (hl : m.LinkedAtRest) :
    (∃ c f, m.failedStep = some f ∧ m'.LinkedInRetry c f) ∨
      m'.LinkedAtRest ∧ m'.failedStep = m.failedStep := by
  have named {f : FailedStep} {previous : Message} (hstep : m.failedStep = some f)
      (hfound : m.store.conversation.find? f.messageId = some previous) :
      ∃ pre post, m.messages = pre ++ previous :: post ∧ f.Names pre previous post := by
    obtain ⟨pre, x, post, hlog, hnames⟩ := hl.names f hstep
    rw [Conversation.find?, show m.store.conversation.messages = _ from hlog, hnames.find?] at hfound
    cases hfound
    exact ⟨pre, post, hlog, hnames⟩
  have opened {f : FailedStep} {previous : Message} {m₁ : Moderator σ} {pre post : List Message}
      (hid : f.messageId = previous.id) (hlog : m.messages = pre ++ previous :: post)
      (hnames : f.Names pre previous post) (hopen : Follows (reopened s previous) m m₁) :
      m₁.failedStep = m.failedStep ∧ m₁.messages = pre ++ previous.reopened :: post := by
    obtain ⟨j, k, rfl⟩ := hopen
    refine ⟨failedStep_dispatched s _ _, (messages_dispatched s _ _).trans ?_⟩
    change (m.messages.map fun x => if x.hasId previous.id then x.reopened else x) = _
    rw [hlog, map_of_hasId _ (fun y hy => hid ▸ hnames.alone y hy) (hid ▸ hnames.id)]
  cases h with
  | refused j => exact .inr ⟨⟨hl.running, hl.names, hl.outcome⟩, rfl⟩
  | @gone f j hstep hgone =>
    -- this does not happen: the message that the step names is in the log
    obtain ⟨pre, x, post, hlog, hnames⟩ := hl.names f hstep
    rw [Conversation.find?, show m.store.conversation.messages = _ from hlog, hnames.find?] at hgone
    cases hgone
  | @waits m₁ f previous c hstep hid hfound hopen htask _ _ _ =>
    obtain ⟨pre, post, hlog, hnames⟩ := named hstep hfound
    obtain ⟨hstep₁, hlog₁⟩ := opened hid hlog hnames hopen
    exact .inl ⟨c, f, hstep, rfl, hstep₁.trans hstep,
      ⟨pre, previous, post, htask, hid, hlog₁, hnames⟩⟩
  | @stopped m₁ m₂ _ f previous hstep hid hfound hopen hback hend =>
    obtain ⟨pre, post, hlog, hnames⟩ := named hstep hfound
    obtain ⟨hstep₁, hlog₁⟩ := opened hid hlog hnames hopen
    obtain ⟨⟨t, ht⟩, -⟩ := hrest.texts.failedStep f hstep
    have hplain := hm.log.plain.messages previous (List.mem_of_find?_eq_some hfound)
    have hm₁ := hopen.isSound hm fun _ hn => hn.reopened s previous
    have hm₂ := hback.isSound hm₁ fun _ hn => hn.dispatched s (a := .replace previous) trivial hplain
    have hstep₂ : m₂.failedStep = some f := by
      obtain ⟨j, k, rfl⟩ := hback
      exact (failedStep_dispatched s _ _).trans (hstep₁.trans hstep)
    have hnames₂ : f.NamesIn m₂.messages := by
      obtain ⟨j, k, rfl⟩ := hback
      exact names_mended (m := m₁.withJournal j) (s := s) hid hlog₁ hnames .cancelled
    refine .inr ⟨hend.linked_settled hm₂ ht hstep₂ hnames₂ (by decide), ?_⟩
    rw [hend.settled_eq.2.2, hstep₂, hstep]

end

/-! ## after every event -/

namespace Moderator

variable {s : Surroundings σ} {m m' : Moderator σ} {c : Call} {f : FailedStep} {e : Event}

/-- an event that leaves all but the notepad and what it may change beside a run -/
structure SameRun (m m' : Moderator σ) : Prop where
  running : m'.running = m.running
  call : m'.call = m.call
  failedStep : m'.failedStep = m.failedStep
  lastOutcome : m'.lastOutcome = m.lastOutcome
  messages : m'.messages = m.messages

theorem SameRun.of_beside (h : Beside m m') : SameRun m m' :=
  ⟨h.running, h.call, h.failedStep, (congrArg Moderator.lastOutcome h.same :),
    congrArg Conversation.messages h.conversation⟩

theorem sameRun_edited (s : Surroundings σ) (content : Value) (m : Moderator σ) :
    SameRun m (m.dispatched s (.setDocument content)) :=
  ⟨running_dispatched s _ m, call_dispatched s _ m, failedStep_dispatched s _ m,
    lastOutcome_dispatched s _ m, messages_dispatched s _ m⟩

theorem LinkedAtRest.of_sameRun (h : m.LinkedAtRest) (hs : SameRun m m') : m'.LinkedAtRest := by
  refine ⟨hs.running.trans h.running, fun f hf => ?_, fun hf => ?_⟩
  · rw [hs.messages]
    exact h.names f (hs.failedStep ▸ hf)
  · rw [hs.lastOutcome]
    exact h.outcome (hs.failedStep ▸ hf)

theorem LinkedInDebate.of_sameRun (h : m.LinkedInDebate c) (hs : SameRun m m') :
    m'.LinkedInDebate c := by
  refine ⟨hs.call.trans h.call, h.task, hs.failedStep.trans h.failedStep, ?_⟩
  rw [hs.messages]
  exact h.log

theorem LinkedInRetry.of_sameRun (h : m.LinkedInRetry c f) (hs : SameRun m m') :
    m'.LinkedInRetry c f := by
  refine ⟨hs.call.trans h.call, hs.failedStep.trans h.failedStep, ?_⟩
  rw [hs.messages]
  exact h.log

/-- a proper event while a run waits is a reply, or leaves the run as it is -/
theorem Awaits.sameRun_or_replied (hs : s.IsCalm) (hm : m.Awaits c) (he : e.IsProper m) :
    SameRun m (m.step s e) ∨ Replied s c m (m.step s e) := by
  have hregular : m.IsRegular := .inr ⟨c, hm⟩
  have hhappened := hregular.happened hs he.typed
  have hbusy : m.running ≠ false := by simp [hm.running]
  generalize m.step s e = m' at hhappened
  cases hhappened with
  | beside h _ _ => exact .inl (.of_beside h)
  | queued _ _ h _ _ => exact .inl (.of_beside h)
  | edited _ => exact .inl (sameRun_edited s _ m)
  | attachedNow _ hrun _ _ _ => exact absurd hrun hbusy
  | attachedLate _ _ => exact absurd (he.inTurn rfl) hbusy
  | begun hrun _ _ => exact absurd hrun hbusy
  | reopened hrun _ => exact absurd hrun hbusy
  | replied hcall h =>
    rw [hm.call] at hcall
    cases hcall
    exact .inr h

theorem LinkedInDebate.step (hl : m.LinkedInDebate c) (hs : s.IsCalm) (hregular : m.IsRegular)
    (hm : m.IsSound) (he : e.IsProper m) :
    (∃ c', (m.step s e).LinkedInDebate c') ∨
      (m.step s e).LinkedAtRest ∧
        ((m.step s e).lastOutcome ≠ some .failed → (m.step s e).failedStep = none) := by
  rcases (hregular.awaits hl.call).sameRun_or_replied hs he with hsame | h
  · exact .inl ⟨c, hl.of_sameRun hsame⟩
  · exact h.linked_debate hm hl

theorem LinkedInRetry.step (hl : m.LinkedInRetry c f) (hs : s.IsCalm) (hregular : m.IsRegular)
    (hm : m.IsSound) (he : e.IsProper m) :
    (m.step s e).LinkedInRetry c f ∨
      (m.step s e).LinkedAtRest ∧ (m.step s e).failedStep =
        if (m.step s e).lastOutcome = some .complete then none else some f := by
  have hwaits := hregular.awaits hl.call
  rcases hwaits.sameRun_or_replied hs he with hsame | h
  · exact .inl (hl.of_sameRun hsame)
  · obtain ⟨⟨t, ht⟩, -⟩ := hwaits.texts.failedStep f hl.failedStep
    exact .inr (h.linked_retry hm ht hl)

/-- a moderator whose failed step and log belong together, at rest or while it waits -/
def IsLinked (m : Moderator σ) : Prop :=
  m.LinkedAtRest ∨ (∃ c, m.LinkedInDebate c) ∨ ∃ c f, m.LinkedInRetry c f

theorem LinkedAtRest.step (hl : m.LinkedAtRest) (hs : s.IsCalm) (hregular : m.IsRegular)
    (hm : m.IsSound) (he : e.IsProper m) : (m.step s e).IsLinked := by
  have hrest := hregular.rests hl.running
  have hhappened := hregular.happened hs he.typed
  generalize m.step s e = m' at hhappened
  cases hhappened with
  | beside h _ _ => exact .inl (hl.of_sameRun (.of_beside h))
  | queued _ _ h _ _ => exact .inl (hl.of_sameRun (.of_beside h))
  | edited _ => exact .inl (hl.of_sameRun (sameRun_edited s _ m))
  -- a conversation that is attached comes without a failed step
  | @attachedNow _ c _ _ supply _ _ =>
    have hload := heeded_heeded s { m with supply, store := { conversation := c } }
    exact .inl (.of_none ((congrArg Moderator.running hload.same :).trans hl.running) rfl)
  | @attachedLate w rest _ _ =>
    have hload := heeded_heeded s { m with
      waiting := rest, store := { conversation := w.conversation } }
    exact .inl (.of_none ((congrArg Moderator.running hload.same :).trans hl.running) rfl)
  | begun _ hrequest hrest =>
    have hm₁ := hrequest.isSound hm fun _ hn => hn.requested s _ (he.image _ _ rfl)
    have hnone := hrequest.preserves (P := fun _ => True) (Q := fun n => n.failedStep = none) trivial
      (fun _ _ _ => trivial) (fun _ _ => rfl) fun _ _ hn => hn
    rcases hrest.linked hm₁ hnone with hwaits | ⟨hrun, hstep⟩
    · exact .inr (.inl hwaits)
    · exact .inl (.of_none hrun hstep)
  | reopened _ h =>
    rcases h.linked hm hrest hl with ⟨c, f, -, hwaits⟩ | ⟨hrest', -⟩
    · exact .inr (.inr ⟨c, f, hwaits⟩)
    · exact .inl hrest'
  | replied hcall _ =>
    rw [hrest.idle.call] at hcall
    cases hcall

theorem IsLinked.step (hl : m.IsLinked) (hs : s.IsCalm) (hregular : m.IsRegular) (hm : m.IsSound)
    (he : e.IsProper m) : (m.step s e).IsLinked := by
  rcases hl with hl | ⟨c, hl⟩ | ⟨c, f, hl⟩
  · exact hl.step hs hregular hm he
  · rcases hl.step hs hregular hm he with hwaits | ⟨hrest, -⟩
    · exact .inr (.inl hwaits)
    · exact .inl hrest
  · rcases hl.step hs hregular hm he with hwaits | ⟨hrest, -⟩
    · exact .inr (.inr ⟨c, f, hwaits⟩)
    · exact .inl hrest

end Moderator

end Debate
