import Debate.Proofs.Course

/-!
# Replies in a debate

A reply that goes well is followed by the next turn, or it was the last one; any other reply settles
the debate.

* `Moderator.concluded`                a step of a debate, and the end of the debate if it came to it;
* `standing_turn`, `standing_complete` the next turn, and the end after the last one;
* `Underway.standing_ok`               a reply that goes well;
* `Underway.over_cancelled`, `Underway.over_failed`   replies that do not;
* `Underway.standing_replied`          a reply of any kind.
-/

namespace Debate

open Debate.Number

variable {σ : Type}

/-! ## going on, and settling -/

/-- how a debate is settled after a step, if it is -/
def closingOutcome : Except Fault (Option Outcome) → Option Outcome
  | .ok o => o
  | .error .cancelled => some .cancelled
  | .error .aborted => some .cancelled
  | .error _ => some .failed

namespace Moderator

variable {s : Surroundings σ} {m : Moderator σ}

theorem snd_carry_settleDebate (hs : s.IsCalm) (r : Except Fault (Option Outcome))
    (m : Moderator σ) :
    ∃ j, (m.carry (settleDebate s r)).2 =
      match closingOutcome r with
      | none => m
      | some o => (m.settled s o).withJournal j := by
  have hfinish (o : Outcome) {α : Type} (x : Moderating σ α)
      (hx : ∀ m' : Moderator σ, (m'.carry x).2 = m') :
      ∃ j, (m.carry (finish s o >>= fun _ => x)).2 = (m.settled s o).withJournal j := by
    obtain ⟨j, hj⟩ := carry_finish hs o m
    exact ⟨j, by rw [carry_bind_ok hj, hx]⟩
  rcases r with e | _ | o
  · cases e <;> exact hfinish _ _ fun _ => rfl
  · exact ⟨[], rfl⟩
  · exact hfinish _ _ fun _ => rfl

/-- the moderator after a step of a debate, which is settled if it came to its end -/
def concluded (s : Surroundings σ) (x : Moderating σ (Option Outcome)) (m : Moderator σ) :
    Moderator σ :=
  ((m.carry x).2.carry (settleDebate s (m.carry x).1)).2

theorem concluded_eq (hs : s.IsCalm) {x : Moderating σ (Option Outcome)}
    {r : Except Fault (Option Outcome)} {m' : Moderator σ} (hx : m.carry x = (r, m')) :
    ∃ j, m.concluded s x =
      match closingOutcome r with
      | none => m'
      | some o => (m'.settled s o).withJournal j := by
  rw [concluded, hx]
  exact snd_carry_settleDebate hs r m'

/-- the step that a reply in a debate makes -/
theorem step_replied {c : Call} {p : Progress} (hc : m.call = some c) (ht : c.task = .debate p)
    (reply : Except Fault Value) :
    m.step s (.replied reply) = m.concluded s (continueDebate s c p reply) := by
  rw [step, resume, carry_bind_ok (carry_get m), hc]
  simp only [ht]
  rw [carry_attempt_bind (m.carry_pair _), snd_carry_map _ _ _ fun _ _ => rfl]
  rfl

theorem carry_beginIteration (s : Surroundings σ) (voice : Voice) (p : Progress)
    (m : Moderator σ) :
    ∃ j, m.carry (beginIteration s voice p) =
      (m.withJournal j).carry (takeTurn s voice { p with position := .first } m.settings.agentA) := by
  simp only [beginIteration]
  rw [carry_bind_ok (carry_log ..), carry_bind_ok (carry_live ..), carry_bind_ok (carry_live ..),
    carry_bind_ok (carry_live ..), carry_bind_ok (carry_get _)]
  exact ⟨_, rfl⟩

section

variable {c : Call} {p : Progress} {reply : Except Fault Value} {m' : Moderator σ}

theorem carry_continueDebate_ok {r : Turn.Result}
    (h : m.carry (finishTurn s c reply) = (.ok r, m')) :
    m.carry (continueDebate s c p reply) = m'.carry (afterTurn s c.voice p r.sawMarker) := by
  rw [continueDebate, carry_attempt_bind h]

theorem carry_continueDebate_cancelled {e : Fault} (he : e = .cancelled ∨ e = .aborted)
    (h : m.carry (finishTurn s c reply) = (.error e, m')) :
    m.carry (continueDebate s c p reply) = (.error e, m') := by
  rw [continueDebate, carry_attempt_bind h]
  rcases he with rfl | rfl <;> rfl

/-- the moderator after a turn that failed: the failure stands in the log, and can be retried -/
def broken (s : Surroundings σ) (c : Call) (e : Fault) (m : Moderator σ) : Moderator σ :=
  { m.dispatched s (.fail c.messageId (failureText e)) with
    failedStep := some { messageId := c.messageId, prompt := c.prompt, sender := c.persona.sender } }

@[simp] theorem messages_broken (s : Surroundings σ) (c : Call) (e : Fault) (m : Moderator σ) :
    (m.broken s c e).messages =
      (m.store.conversation.apply (.fail c.messageId (failureText e))).messages :=
  messages_dispatched s _ m

theorem carry_continueDebate_failed (hs : s.IsCalm) {e : Fault} (hc : e ≠ .cancelled)
    (ha : e ≠ .aborted) (h : m.carry (finishTurn s c reply) = (.error e, m')) :
    ∃ j, m.carry (continueDebate s c p reply) =
      (.ok (some .failed), (m'.withJournal j).broken s c e) := by
  obtain ⟨j, hj⟩ := carry_reportFailure hs c.persona c.messageId e m'
  refine ⟨j, ?_⟩
  rw [continueDebate, carry_attempt_bind h]
  cases e with
  | cancelled => exact absurd rfl hc
  | aborted => exact absurd rfl ha
  | _ => exact (carry_bind_ok hj _).trans rfl

theorem carry_afterTurn_first (s : Surroundings σ) (voice : Voice) (hp : p.position = .first)
    (marked : Bool) (m : Moderator σ) :
    m.carry (afterTurn s voice p marked) =
      m.carry (do
        takeTurn s voice { p with position := .second marked } m.settings.agentB
        return none) := by
  rw [afterTurn, hp]
  dsimp only
  rw [carry_bind_ok (carry_get m)]

theorem carry_afterTurn_agreed (hs : s.IsCalm) (voice : Voice) (hp : p.position = .second true)
    (hdriven : p.agentDriven = true) (m : Moderator σ) :
    ∃ j, m.carry (afterTurn s voice p true) =
      (.ok (some .complete),
        (m.withJournal j).appended s fun id now => .notice id now consensusNotice) := by
  rw [afterTurn, hp]
  dsimp only
  rw [if_pos ⟨hdriven, rfl, rfl⟩, carry_bind_ok (carry_log ..), carry_bind_ok (carry_notify hs _ _)]
  exact ⟨_, rfl⟩

/-- a second turn without an agreement -/
theorem carry_afterTurn_second (s : Surroundings σ) (voice : Voice) {before : Bool}
    (hp : p.position = .second before) (marked : Bool)
    (hapart : ¬ (p.agentDriven ∧ before ∧ marked)) (m : Moderator σ) :
    ∃ j, m.carry (afterTurn s voice p marked) =
      if p.iteration < p.iterations then
        (m.withJournal j).carry (do
          takeTurn s voice { p with iteration := p.iteration + 1, position := .first }
            m.settings.agentA
          return none)
      else (.ok (some .complete), m.withJournal j) := by
  rw [afterTurn, hp]
  dsimp only
  rw [if_neg hapart]
  split
  · obtain ⟨j, hj⟩ := carry_beginIteration s voice
      { p with iteration := p.iteration + 1, position := .second before } m
    refine ⟨j, ?_⟩
    rw [carry_bind, hj, carry_bind]
  · rw [carry_bind_ok (carry_log ..)]
    exact ⟨_, rfl⟩

end

end Moderator

/-! ## a reply -/

section

variable {s : Surroundings σ} {st : Settings} {query : String} {n : Int} {before : List Message}
  {rs : List Turn.Result} {c : Call} {xs : List Message} {m : Moderator σ}

theorem Between.withJournal (h : Between s st xs m) (j : List Entry) :
    Between s st xs (m.withJournal j) :=
  ⟨h.settings, h.running, h.token, h.inFlight, h.pendingEdit, h.failedStep, h.call, h.notepad,
    h.messages, h.supply⟩

/-- a notice between two turns -/
theorem Between.appended (hs : s.IsCalm) (h : Between s st xs m) (text : String) :
    Between s st (xs ++ [.notice m.supply.draw.1 m.supply.timestamp text])
      (m.appended s fun id now => .notice id now text) := by
  generalize hmake : (fun id now => Message.notice id now text) = make
  have hmessages : (m.appended s make).messages =
      xs ++ [.notice m.supply.draw.1 m.supply.timestamp text] := by
    rw [Moderator.messages_appended, h.messages, ← hmake]
  constructor
  · exact (Moderator.settings_appended s make m).trans h.settings
  · exact (Moderator.running_appended s make m).trans h.running
  · rcases Moderator.token_appended s make m with ht | ⟨-, ht, hasks⟩
    · rw [ht]
      exact h.token
    · exact .inr ⟨ht, hasks⟩
  · exact (Moderator.turnInFlight_appended s make m).trans h.inFlight
  · exact (Moderator.pendingEdit_appended s make m h.inFlight).trans h.pendingEdit
  · exact (Moderator.failedStep_appended s make m).trans h.failedStep
  · exact (Moderator.call_appended s make m).trans h.call
  · obtain ⟨d, hd⟩ := h.notepad
    exact (Unedited.appended s make m).text hs hd
  · exact hmessages
  · rw [hmessages, Moderator.supply_appended, ← h.messages]
    exact h.supply.append rfl

/-- the end of a run settles the debate, if it is a way in which debates end -/
theorem over_settled (hsaid : Said st rs xs) (hflight : m.store.turnInFlight = false)
    (hedit : m.store.pendingEdit = .null) (hcall : m.call = none) {tail : List Message}
    (hlog : m.store.conversation.settled = before ++ xs ++ tail) {outcome : Outcome}
    {os : List (Except Fault Turn.Result)}
    (hclosing : ∀ id now, Closing s st n rs os outcome
      (tail ++ if outcome = .cancelled then [.notice id now Moderator.cancelledNotice] else []))
    (hstep : m.failedStep.map (·.messageId) =
      if outcome = .failed then tail.head?.map (·.id) else none) (j : List Entry) :
    Over s st n before rs os xs ((m.settled s outcome).withJournal j) := by
  refine ⟨hsaid, ?_, outcome, _, rfl, ?_, hclosing m.supply.draw.1 m.supply.timestamp, ?_⟩
  · obtain ⟨h₁, h₂, h₃, h₄, h₅⟩ := Moderator.isIdle_settled s outcome hcall hflight hedit
    exact ⟨h₁, h₂, h₃, h₄, h₅⟩
  · rw [← List.append_assoc, ← hlog]
    exact Moderator.messages_settled s outcome m
  · rw [show ((m.settled s outcome).withJournal j).failedStep = m.failedStep from
      Moderator.failedStep_settled s outcome m, hstep]
    by_cases ho : outcome = .failed
    · rw [if_pos ho, if_pos ho, if_neg (by rw [ho]; nofun), List.append_nil]
    · rw [if_neg ho, if_neg ho]

theorem Halted.withJournal (h : Halted xs m) (j : List Entry) : Halted xs (m.withJournal j) :=
  ⟨h.inFlight, h.pendingEdit, h.failedStep, h.call, h.settled⟩

/-- a debate that was cancelled is settled with a notice -/
theorem Halted.over (hm : Halted (before ++ xs) m) (hsaid : Said st rs xs)
    {os : List (Except Fault Turn.Result)}
    (hclosing : ∀ id now, Closing s st n rs os .cancelled
      [.notice id now Moderator.cancelledNotice]) (j : List Entry) :
    Over s st n before rs os xs ((m.settled s .cancelled).withJournal j) := by
  refine over_settled hsaid hm.inFlight hm.pendingEdit hm.call
    (hm.settled.trans (List.append_nil _).symm) hclosing ?_ j
  rw [hm.failedStep]
  rfl

namespace Underway

/-- the log of a debate that waits, without the placeholder -/
theorem settled_eq (h : Underway st query n before rs c xs m) :
    m.store.conversation.settled = before ++ xs := by
  obtain ⟨id, now, -, hlog, -⟩ := h.log
  rw [Conversation.settled, show m.store.conversation.messages = _ from hlog, List.filter_append,
    List.filter_eq_self.mpr fun x hx => by rw [h.talk.settled x hx]; rfl]
  exact List.append_nil _

/-- the token of a debate that is not cancelled -/
theorem token_eq (h : Underway st query n before rs c xs m) (hc : m.isCancelled = false) :
    m.token = some false := by
  rcases ht : m.token with _ | _ | _
  · exact absurd ht h.token
  · rfl
  · rw [Moderator.isCancelled, ht] at hc
    cases hc

/-- a reply that goes well puts its text in place of the placeholder -/
theorem between_committed (hs : s.IsCalm) (h : Underway st query n before rs c xs m)
    {reply : Except Fault Value} {r : Turn.Result}
    (hr : c.ending m.clock m.isCancelled reply = .ok r) (j j' : List Entry) :
    ∃ x, r.IsSaidBy (st.speaker rs.length) x ∧
      Between s st (before ++ (xs ++ [x]))
        (((m.withJournal j).committed s c (.ok r)).withJournal j') := by
  obtain ⟨id, now, hid, hlog, hother⟩ := h.log
  obtain ⟨d, hcd, hd, -⟩ := h.notepad
  obtain ⟨hopen, value, -, hresult⟩ := Call.ending_eq_ok hr
  obtain ⟨t, ht⟩ : ∃ t, r.document = .text t := ⟨_, Call.document_of_result hcd hresult⟩
  refine ⟨(Message.placeholder id now (st.speaker rs.length).sender).resolved (.text r.text)
    (.int r.durationMs), ⟨id, now, rfl⟩, Between.withJournal ?_ j'⟩
  generalize hm' : (m.withJournal j).committed s c (.ok r) = m'
  have hmessages : m'.messages = before ++ (xs ++
      [(Message.placeholder id now (st.speaker rs.length).sender).resolved (.text r.text)
        (.int r.durationMs)]) := by
    rw [← hm', Moderator.messages_committed]
    change (m.messages.map fun x => if x.hasId c.messageId then
      x.resolved (.text r.text) (.int r.durationMs) else x) = _
    rw [hlog, hid, map_concat_of_id _ hother (hasId_placeholder ..), List.append_assoc]
  constructor
  · rw [← hm', Moderator.settings_committed]
    exact h.settings
  · rw [← hm', Moderator.running_committed]
    exact h.running
  · have htoken := hm' ▸ Moderator.token_committed s c (.ok r) (m.withJournal j)
    rcases htoken with ht | ⟨-, ht, hasks⟩
    · exact .inl (ht.trans (h.token_eq hopen))
    · exact .inr ⟨ht, hasks⟩
  · rw [← hm', Moderator.turnInFlight_committed]
  · rw [← hm', Moderator.pendingEdit_committed]
  · rw [← hm', Moderator.failedStep_committed]
    exact h.failedStep
  · rw [← hm', Moderator.call_committed]
  · have hdoc := hm' ▸ Moderator.document_committed s c (.ok r) (m.withJournal j) hs
    rcases hdoc with hdoc | hasks
    · rw [hdoc]
      rcases h.pendingEdit with hp | ⟨e, hp⟩
      · refine ⟨t, ?_⟩
        rw [if_pos (show (m.withJournal j).store.pendingEdit = .null from hp)]
        exact ht
      · refine ⟨e, ?_⟩
        rw [show (m.withJournal j).store.pendingEdit = .text e from hp, if_neg nofun]
    · exact hs.editsText _ hasks
  · exact hmessages
  · rw [← hm', Moderator.supply_committed, hm', hmessages]
    refine h.supply.of_ids fun y hy => ?_
    rw [hlog, List.append_assoc]
    rcases List.mem_append.mp hy with hy | hy
    · exact ⟨y, List.mem_append_left _ hy, rfl⟩
    · rcases List.mem_append.mp hy with hy | hy
      · exact ⟨y, List.mem_append_right _ (List.mem_append_left _ hy), rfl⟩
      · rw [List.mem_singleton.mp hy]
        exact ⟨_, List.mem_append_right _ (List.mem_append_right _ (List.mem_singleton.mpr rfl)),
          rfl⟩

end Underway

/-- the next turn starts: the debate waits, or a listener has cancelled it -/
theorem standing_turn (hs : s.IsCalm) (htalk : Talk st n before rs xs)
    (hm : Between s st (before ++ xs) m)
    {m₀ : Moderator σ} {x : Moderating σ (Option Outcome)} {voice : Voice}
    (hx : m₀.carry x = m.carry (do
      Moderator.takeTurn s voice (st.progress query n rs) (st.speaker rs.length)
      return none)) :
    Standing s st query n before (rs.map .ok) (m₀.concluded s x) ∧
      Landed s m (m₀.concluded s x) := by
  rcases Moderator.carry_takeTurn_between hs htalk hm voice with
    ⟨m', c, hturn, hunder, hkept⟩ | ⟨m', hturn, hasks, hhalted, hkept⟩
  · obtain ⟨j, hj⟩ := Moderator.concluded_eq hs
      (hx.trans ((Moderator.carry_bind_ok hturn _).trans (Moderator.carry_pure m' none)))
    rw [hj]
    exact ⟨.inl ⟨rs, c, xs, rfl, hunder⟩, hkept⟩
  · obtain ⟨j, hj⟩ := Moderator.concluded_eq hs
      (hx.trans (Moderator.carry_bind_error hturn _))
    rw [hj]
    have hover := hhalted.over htalk.said (fun id now => .stopped (n := n) id now hasks) j
    exact ⟨.inr ⟨rs, xs, hover⟩, hkept.trans (Unedited.settled s .cancelled m'),
      hover.idle.pendingEdit⟩

/-- the debate comes to its end after a turn -/
theorem standing_complete (hs : s.IsCalm) (hsaid : Said st rs xs) {tail : List Message}
    (hpending : ∀ x ∈ before ++ xs ++ tail, x.pending = false)
    (hm : Between s st (before ++ xs ++ tail) m) {os : List (Except Fault Turn.Result)}
    (hclosing : Closing s st n rs os .complete tail) {m₀ : Moderator σ}
    {x : Moderating σ (Option Outcome)} (hx : m₀.carry x = (.ok (some .complete), m)) :
    Standing s st query n before os (m₀.concluded s x) ∧ Landed s m (m₀.concluded s x) := by
  obtain ⟨j, hj⟩ := Moderator.concluded_eq hs hx
  rw [hj]
  have hlog : m.store.conversation.settled = before ++ xs ++ tail := by
    rw [Conversation.settled, show m.store.conversation.messages = _ from hm.messages]
    exact List.filter_eq_self.mpr fun x hx => by rw [hpending x hx]; rfl
  have hover : Over s st n before rs os xs ((m.settled s .complete).withJournal j) := by
    refine over_settled hsaid hm.inFlight hm.pendingEdit hm.call hlog (fun _ _ => ?_) ?_ j
    · rw [if_neg (by decide), List.append_nil]
      exact hclosing
    · rw [hm.failedStep]
      rfl
  exact ⟨.inr ⟨rs, xs, hover⟩, Unedited.settled s .complete m, hover.idle.pendingEdit⟩

/-! ### a reply that goes well -/

theorem Turn.Result.IsSaidBy.pending {r : Turn.Result} {p : Persona} {x : Message}
    (h : r.IsSaidBy p x) : x.pending = false := by
  obtain ⟨id, now, rfl⟩ := h
  rfl

/-- the debate after one more turn, if it goes on -/
theorem Talk.concat (h : Talk st n before rs xs) {r : Turn.Result} {x : Message}
    (hx : r.IsSaidBy (st.speaker rs.length) x) (hshort : (rs.length + 1 : Int) < 2 * n)
    (hapart : st.mode = .agentDriven → ∀ i, ¬ Agree (rs ++ [r]) i) :
    Talk st n before (rs ++ [r]) (xs ++ [x]) where
  said := h.said.concat hx
  settled := by
    intro y hy
    rw [← List.append_assoc] at hy
    rcases List.mem_append.mp hy with hy | hy
    · exact h.settled y hy
    · rw [List.mem_singleton.mp hy]
      exact hx.pending
  short := by
    rw [List.length_append, List.length_singleton]
    omega
  apart := hapart

theorem Settings.progress_concat_first (h : rs.length % 2 = 0) (r : Turn.Result) :
    st.progress query n (rs ++ [r]) =
      { st.progress query n rs with position := .second r.sawMarker } := by
  have hlength : (rs ++ [r]).length = rs.length + 1 := List.length_append
  simp only [Settings.progress, hlength]
  rw [if_neg (by omega), List.getLast?_concat, show (rs.length + 1) / 2 = rs.length / 2 by omega]
  rfl

theorem Settings.progress_concat_second (h : rs.length % 2 = 1) (r : Turn.Result) :
    st.progress query n (rs ++ [r]) =
      { st.progress query n rs with
        iteration := (st.progress query n rs).iteration + 1, position := .first } := by
  have hlength : (rs ++ [r]).length = rs.length + 1 := List.length_append
  simp only [Settings.progress, hlength]
  rw [if_pos (by omega), show (rs.length + 1) / 2 = rs.length / 2 + 1 by omega]
  rfl

theorem Settings.speaker_succ_of_even {k : Nat} (h : k % 2 = 0) : st.speaker (k + 1) = st.agentB :=
  if_neg (by omega)

theorem Settings.speaker_succ_of_odd {k : Nat} (h : k % 2 = 1) : st.speaker (k + 1) = st.agentA :=
  if_pos (by omega)

/-- nothing is pending after one more turn -/
theorem Talk.settled_concat (h : Talk st n before rs xs) {r : Turn.Result} {x : Message}
    (hx : r.IsSaidBy (st.speaker rs.length) x) :
    ∀ y ∈ before ++ (xs ++ [x]), y.pending = false := by
  intro y hy
  rw [← List.append_assoc] at hy
  rcases List.mem_append.mp hy with hy | hy
  · exact h.settled y hy
  · rw [List.mem_singleton.mp hy]
    exact hx.pending

section

variable {r : Turn.Result} {x : Message} {voice : Voice} {m₀ : Moderator σ}
  {go : Moderating σ (Option Outcome)}

/-- after the first reply of an iteration the second persona's turn starts -/
theorem standing_first (hs : s.IsCalm) (htalk : Talk st n before rs xs)
    (hx : r.IsSaidBy (st.speaker rs.length) x) (hpar : rs.length % 2 = 0)
    (hm : Between s st (before ++ (xs ++ [x])) m)
    (hgo : m₀.carry go = m.carry
      (Moderator.afterTurn s voice (st.progress query n rs) r.sawMarker)) :
    Standing s st query n before ((rs ++ [r]).map .ok) (m₀.concluded s go) ∧
      Landed s m (m₀.concluded s go) := by
  have hlength : (rs ++ [r]).length = rs.length + 1 := List.length_append
  have hshort := htalk.short
  have htalk' := htalk.concat hx (by omega) fun hmode i hi =>
    htalk.apart hmode i ((agree_concat_first hpar).mp hi)
  rw [Moderator.carry_afterTurn_first s voice (if_pos hpar),
    ← Settings.progress_concat_first hpar, hm.settings, ← Settings.speaker_succ_of_even hpar,
    ← hlength] at hgo
  exact standing_turn hs htalk' hm hgo

/-- after the second reply of an iteration in which both personas want to end, the debate is
complete -/
theorem standing_agreed (hs : s.IsCalm) {q : Turn.Result} (htalk : Talk st n before (rs ++ [q]) xs)
    (hx : r.IsSaidBy (st.speaker (rs ++ [q]).length) x) (hpar : rs.length % 2 = 0)
    (hmode : st.mode = .agentDriven) (hq : q.sawMarker = true) (hr : r.sawMarker = true)
    (hm : Between s st (before ++ (xs ++ [x])) m)
    (hgo : m₀.carry go = m.carry
      (Moderator.afterTurn s voice (st.progress query n (rs ++ [q])) r.sawMarker)) :
    Standing s st query n before ((rs ++ [q] ++ [r]).map .ok) (m₀.concluded s go) ∧
      Landed s m (m₀.concluded s go) := by
  have hposition : (st.progress query n (rs ++ [q])).position = .second true := by
    rw [Settings.progress_concat_first hpar, hq]
  have hagree := @agree_concat_second rs q r hpar
  obtain ⟨j, hj⟩ := Moderator.carry_afterTurn_agreed hs voice hposition (decide_eq_true hmode) m
  rw [hr, hj] at hgo
  have hnotice := (hm.withJournal j).appended hs Moderator.consensusNotice
  have hclosing (id now : String) : Closing s st n (rs ++ [q] ++ [r]) ((rs ++ [q] ++ [r]).map .ok)
      .complete [.notice id now Moderator.consensusNotice] := by
    refine .agreed (rs.length / 2) id now hmode ?_ (hagree.mpr (.inr ⟨rfl, hq, hr⟩)) ?_
    · simp only [List.length_append, List.length_singleton]
      omega
    · intro i hi hthere
      rcases hagree.mp hthere with hthere | ⟨rfl, -⟩
      · exact htalk.apart hmode i ((agree_concat_first hpar).mpr hthere)
      · omega
  generalize hmake : (fun id now => Message.notice id now Moderator.consensusNotice) = make
    at hnotice hgo
  have hkept : Unedited s m ((m.withJournal j).appended s make) :=
    Unedited.appended s make (m.withJournal j)
  have hall : ∀ y ∈ before ++ (xs ++ [x]) ++ [Message.notice (m.withJournal j).supply.draw.1
      (m.withJournal j).supply.timestamp Moderator.consensusNotice], y.pending = false := by
    intro y hy
    rcases List.mem_append.mp hy with hy | hy
    · exact htalk.settled_concat hx y hy
    · rw [List.mem_singleton.mp hy]
      rfl
  refine (?_ : _ ∧ _).imp_right hkept.landed
  exact standing_complete hs (htalk.said.concat hx) hall hnotice (hclosing _ _) hgo

/-- after the second reply of another iteration the next one begins, if it was not the last -/
theorem standing_second (hs : s.IsCalm) {q : Turn.Result}
    (htalk : Talk st n before (rs ++ [q]) xs)
    (hx : r.IsSaidBy (st.speaker (rs ++ [q]).length) x) (hpar : rs.length % 2 = 0)
    (hmarks : ¬ (st.mode = .agentDriven ∧ q.sawMarker = true ∧ r.sawMarker = true))
    (hm : Between s st (before ++ (xs ++ [x])) m)
    (hgo : m₀.carry go = m.carry
      (Moderator.afterTurn s voice (st.progress query n (rs ++ [q])) r.sawMarker)) :
    Standing s st query n before ((rs ++ [q] ++ [r]).map .ok) (m₀.concluded s go) ∧
      Landed s m (m₀.concluded s go) := by
  have hq : (rs ++ [q]).length = rs.length + 1 := List.length_append
  have hr : (rs ++ [q] ++ [r]).length = (rs ++ [q]).length + 1 := List.length_append
  have hshort := htalk.short
  have hposition : (st.progress query n (rs ++ [q])).position = .second q.sawMarker := by
    rw [Settings.progress_concat_first hpar]
  have hapart : st.mode = .agentDriven → ∀ i, ¬ Agree (rs ++ [q] ++ [r]) i := by
    intro hmode i hi
    rcases (agree_concat_second hpar).mp hi with hi | ⟨-, hboth⟩
    · exact htalk.apart hmode i ((agree_concat_first hpar).mpr hi)
    · exact hmarks ⟨hmode, hboth⟩
  obtain ⟨j, hj⟩ := Moderator.carry_afterTurn_second s voice hposition r.sawMarker
    (fun hall => hmarks ⟨of_decide_eq_true hall.1, hall.2⟩) m
  have hodd : (rs ++ [q]).length % 2 = 1 := by omega
  by_cases hmore : (st.progress query n (rs ++ [q])).iteration <
      (st.progress query n (rs ++ [q])).iterations
  · have hless : (((rs ++ [q]).length / 2 : Nat) + 1 : Int) < n := hmore
    have htalk' := htalk.concat hx (by omega) hapart
    rw [if_pos hmore, ← Settings.progress_concat_second hodd, hm.settings,
      ← Settings.speaker_succ_of_odd hodd, ← hr] at hj
    exact (standing_turn hs htalk' (hm.withJournal j)
      (hgo.trans hj)).imp_right Landed.of_withJournal
  · have hless : ¬ (((rs ++ [q]).length / 2 : Nat) + 1 : Int) < n := hmore
    rw [if_neg hmore] at hj
    have hclosing : Closing s st n (rs ++ [q] ++ [r]) ((rs ++ [q] ++ [r]).map .ok) .complete [] :=
      .exhausted (by omega) hapart
    have hall := htalk.settled_concat hx
    have hend := hm.withJournal j
    rw [← List.append_nil (before ++ (xs ++ [x]))] at hall hend
    exact (standing_complete hs (htalk.said.concat hx) hall hend hclosing
      (hgo.trans hj)).imp_right Landed.of_withJournal

end

/-- a reply that goes well: the next turn starts, or the debate is complete -/
theorem Underway.standing_ok (hs : s.IsCalm) (h : Underway st query n before rs c xs m)
    {reply : Except Fault Value} {r : Turn.Result}
    (hr : c.ending m.clock m.isCancelled reply = .ok r) :
    Standing s st query n before (rs.map .ok ++ [.ok r]) (m.step s (.replied reply)) ∧
      ∃ j, Landed s ((m.withJournal j).committed s c (.ok r)) (m.step s (.replied reply)) := by
  obtain ⟨j, j', hfin⟩ := Moderator.carry_finishTurn hs c reply m
  rw [hr] at hfin
  obtain ⟨x, hx, hbetween⟩ := h.between_committed hs hr j j'
  have hgo := Moderator.carry_continueDebate_ok (p := st.progress query n rs) hfin
  rw [Moderator.step_replied h.call h.task,
    show (rs.map Except.ok ++ [.ok r] : List (Except Fault Turn.Result)) = (rs ++ [r]).map .ok
      from by rw [List.map_append]; rfl]
  have hkept (m' : Moderator σ)
      (h' : Landed s (((m.withJournal j).committed s c (.ok r)).withJournal j') m') :
      ∃ j, Landed s ((m.withJournal j).committed s c (.ok r)) m' :=
    ⟨j, h'.of_withJournal⟩
  rcases Nat.mod_two_eq_zero_or_one rs.length with hpar | hpar
  · exact (standing_first hs h.talk hx hpar hbetween hgo).imp_right (hkept _)
  · obtain ⟨qs, q, rfl⟩ : ∃ qs q, rs = qs ++ [q] :=
      ⟨rs.dropLast, _, (List.dropLast_concat_getLast fun hnil => by simp [hnil] at hpar).symm⟩
    have hqs : qs.length % 2 = 0 := by
      rw [List.length_append, List.length_singleton] at hpar
      omega
    by_cases hmarks : st.mode = .agentDriven ∧ q.sawMarker = true ∧ r.sawMarker = true
    · obtain ⟨hmode, hq, hrm⟩ := hmarks
      exact (standing_agreed hs h.talk hx hqs hmode hq hrm hbetween hgo).imp_right (hkept _)
    · exact (standing_second hs h.talk hx hqs hmarks hbetween hgo).imp_right (hkept _)

/-! ### a reply that does not -/

/-- a turn that ends without a result leaves the log as it was -/
theorem Underway.halted_committed (h : Underway st query n before rs c xs m) (e : Fault)
    (j : List Entry) : Halted (before ++ xs) ((m.withJournal j).committed s c (.error e)) := by
  constructor
  · rw [Moderator.turnInFlight_committed]
  · rw [Moderator.pendingEdit_committed]
  · rw [Moderator.failedStep_committed]
    exact h.failedStep
  · rw [Moderator.call_committed]
  · have hlog : ((m.withJournal j).committed s c (.error e)).messages = m.messages :=
      Moderator.messages_committed s c (.error e) (m.withJournal j)
    exact (congrArg (fun xs => xs.filter fun x => !x.pending) hlog).trans h.settled_eq

/-- a turn that is cancelled leaves no message, and settles the debate -/
theorem Underway.over_cancelled (hs : s.IsCalm) (h : Underway st query n before rs c xs m)
    {reply : Except Fault Value} {e : Fault} (he : e = .cancelled ∨ e = .aborted)
    (hr : c.ending m.clock m.isCancelled reply = .error e) :
    Over s st n before rs (rs.map .ok ++ [.error e]) xs (m.step s (.replied reply)) ∧
      ∃ j, Landed s ((m.withJournal j).committed s c (.error e)) (m.step s (.replied reply)) := by
  obtain ⟨j, j', hfin⟩ := Moderator.carry_finishTurn hs c reply m
  rw [hr] at hfin
  have hhalted := (h.halted_committed (s := s) e j).withJournal j'
  obtain ⟨k, hk⟩ := Moderator.concluded_eq hs
    (Moderator.carry_continueDebate_cancelled (p := st.progress query n rs) he hfin)
  rw [show closingOutcome (.error e) = some .cancelled by rcases he with rfl | rfl <;> rfl] at hk
  rw [Moderator.step_replied h.call h.task, hk]
  have hover := hhalted.over h.talk.said (fun id now => .cancelled (s := s) (n := n) e id now he) k
  refine ⟨hover, j, ?_, hover.idle.pendingEdit⟩
  exact Unedited.settled s .cancelled (((m.withJournal j).committed s c (.error e)).withJournal j')

/-- a turn that fails leaves its failure in place of its message, and settles the debate -/
theorem Underway.over_failed (hs : s.IsCalm) (h : Underway st query n before rs c xs m)
    {reply : Except Fault Value} {e : Fault} (hc : e ≠ .cancelled) (ha : e ≠ .aborted)
    (hr : c.ending m.clock m.isCancelled reply = .error e) :
    Over s st n before rs (rs.map .ok ++ [.error e]) xs (m.step s (.replied reply)) ∧
      (m.step s (.replied reply)).failedStep = some {
        messageId := c.messageId, prompt := c.prompt, sender := c.persona.sender } ∧
      ∃ j, Landed s ((m.withJournal j).committed s c (.error e)) (m.step s (.replied reply)) := by
  obtain ⟨id, now, hid, hmessages, hother⟩ := h.log
  obtain ⟨j, j', hfin⟩ := Moderator.carry_finishTurn hs c reply m
  rw [hr] at hfin
  obtain ⟨k, hgo⟩ :=
    Moderator.carry_continueDebate_failed (p := st.progress query n rs) hs hc ha hfin
  obtain ⟨l, hl⟩ := Moderator.concluded_eq hs hgo
  have hhalted := (h.halted_committed (s := s) e j).withJournal k
  have hlogged : ((m.withJournal j).committed s c (.error e)).messages = m.messages :=
    Moderator.messages_committed s c (.error e) (m.withJournal j)
  rw [Moderator.withJournal_withJournal] at hl
  rw [Moderator.step_replied h.call h.task, hl]
  generalize hm₁ : (m.withJournal j).committed s c (.error e) = m₁ at hhalted hlogged
  have hlog : ((m₁.withJournal k).broken s c e).messages = before ++ xs ++
      [(Message.placeholder id now (st.speaker rs.length).sender).failed
        (Moderator.failureText e)] := by
    rw [Moderator.messages_broken]
    change (m₁.messages.map fun x => if x.hasId c.messageId then
      x.failed (Moderator.failureText e) else x) = _
    rw [hlogged, hmessages, hid, map_concat_of_id _ hother (hasId_placeholder ..)]
  have hkept : Unedited s m₁ ((m₁.withJournal k).broken s c e) :=
    (Moderator.document_dispatched s _ (m₁.withJournal k)).imp_right And.right
  have hall : ((m₁.withJournal k).broken s c e).store.conversation.settled = before ++ xs ++
      [(Message.placeholder id now (st.speaker rs.length).sender).failed
        (Moderator.failureText e)] := by
    refine (congrArg (fun xs => xs.filter fun x => !x.pending) hlog).trans ?_
    refine List.filter_eq_self.mpr fun x hx => ?_
    rcases List.mem_append.mp hx with hx | hx
    · rw [h.talk.settled x hx]
      rfl
    · rw [List.mem_singleton.mp hx]
      rfl
  have hover : Over s st n before rs (rs.map .ok ++ [.error e]) xs
      ((((m₁.withJournal k).broken s c e).settled s .failed).withJournal l) := by
    refine over_settled h.talk.said ?_ ?_ ?_ hall (fun id now => ?_) ?_ l
    · exact (Moderator.turnInFlight_dispatched s _ _).trans hhalted.inFlight
    · exact (Moderator.pendingEdit_dispatched_of_landed s _ _ hhalted.inFlight).trans
        hhalted.pendingEdit
    · exact (Moderator.call_dispatched s _ _).trans hhalted.call
    · exact .failed e _ _ hc ha
    · exact congrArg some hid
  refine ⟨hover, Moderator.failedStep_settled s .failed ((m₁.withJournal k).broken s c e), j, ?_,
    hover.idle.pendingEdit⟩
  rw [hm₁]
  exact hkept.trans (Unedited.settled s .failed ((m₁.withJournal k).broken s c e))

/-- a reply of any kind -/
theorem Underway.standing_replied (hs : s.IsCalm) (h : Underway st query n before rs c xs m)
    (reply : Except Fault Value) :
    Standing s st query n before (rs.map .ok ++ [c.ending m.clock m.isCancelled reply])
        (m.step s (.replied reply)) ∧
      ∃ j, Landed s
        ((m.withJournal j).committed s c (c.ending m.clock m.isCancelled reply))
        (m.step s (.replied reply)) := by
  cases hr : c.ending m.clock m.isCancelled reply with
  | ok r => exact h.standing_ok hs hr
  | error e =>
    have hstand {m' : Moderator σ} (hover : Over s st n before rs (rs.map .ok ++ [.error e]) xs m') :
        Standing s st query n before (rs.map .ok ++ [.error e]) m' := .inr ⟨rs, xs, hover⟩
    by_cases hc : e = .cancelled
    · exact (h.over_cancelled hs (.inl hc) hr).imp_left hstand
    · by_cases ha : e = .aborted
      · exact (h.over_cancelled hs (.inr ha) hr).imp_left hstand
      · obtain ⟨hover, -, hland⟩ := h.over_failed hs hc ha hr
        exact ⟨hstand hover, hland⟩

end

end Debate
