import Debate.Proofs.Attaching
import Debate.Proofs.Replaying

/-!
# What becomes of a run

What a step of a run does is summed up once, for listeners that do not fail and a notepad that is a
text: each step comes down to a few changes of the moderator, one after the other.

* `Follows`                       one moderator comes from another by a change, but for the journal;
* `Continued`                     what becomes of a debate between two turns;
* `Replied`                       what becomes of a run with a reply;
* `Moderator.continued_submit`    what becomes of a request;
* `Moderator.replied_resume`      what becomes of a reply;
* `Reopened`                      what becomes of a failed turn that is to be taken once more;
* `Moderator.reopened_retry`      the same for the step that starts a retry.
-/

namespace Debate

open Debate.Number

variable {σ : Type}

open Moderator in
/-- one moderator comes from another by a change, but for the journal -/
def Follows (f : Moderator σ → Moderator σ) (m m' : Moderator σ) : Prop :=
  ∃ j k, m' = (f (m.withJournal j)).withJournal k

/-- a change that is made at once, whatever was written in the journal before -/
theorem Follows.now (f : Moderator σ → Moderator σ) (m : Moderator σ) (j : List Entry) :
    Follows f m (f (m.withJournal j)) := ⟨j, (f (m.withJournal j)).journal, rfl⟩

open Moderator in
/-- what becomes of a debate between two turns -/
inductive Continued (s : Surroundings σ) (m : Moderator σ) : Moderator σ → Prop where
  /-- the next turn waits for its reply -/
  | waits {m₁ : Moderator σ} {c : Call} {p : Progress} {d t : String}
      (hplaced : Follows (appended s fun id now => .placeholder id now c.persona.sender) m m₁)
      (htask : c.task = .debate p) (hid : c.messageId = .text m.supply.draw.1)
      (hdocument : c.document = .text d) (hprompt : c.prompt = .text t) :
      Continued s m (m₁.waitingFor c)
  /-- it was cancelled before -/
  | stopped {m' : Moderator σ} (hend : Follows (settled s .cancelled) m m') : Continued s m m'
  /-- a listener cancels it when the next placeholder is shown -/
  | stoppedLate {m₁ m' : Moderator σ} {sender : Sender}
      (hplaced : Follows (appended s fun id now => .placeholder id now sender) m m₁)
      (hend : Follows (settled s .cancelled) m₁ m') : Continued s m m'
  /-- it comes to its end -/
  | complete {m' : Moderator σ} (hend : Follows (settled s .complete) m m') : Continued s m m'
  /-- both personas want to end -/
  | agreed {m₁ m' : Moderator σ}
      (hsaid : Follows (appended s fun id now => .notice id now consensusNotice) m m₁)
      (hend : Follows (settled s .complete) m₁ m') : Continued s m m'
  /-- it cannot begin: the number of its iterations is no number -/
  | failed {m' : Moderator σ} (hend : Follows (settled s .failed) m m') : Continued s m m'

namespace Moderator

variable {s : Surroundings σ} {m m₀ : Moderator σ} {x : Moderating σ (Option Outcome)}

/-! ## debates -/

/-- a step of a debate that settles it -/
theorem follows_concluded (hs : s.IsCalm) {r : Except Fault (Option Outcome)} {j : List Entry}
    (hx : m₀.carry x = (r, m.withJournal j)) {o : Outcome} (ho : closingOutcome r = some o) :
    Follows (settled s o) m (m₀.concluded s x) := by
  obtain ⟨k, hk⟩ := concluded_eq hs hx
  rw [ho] at hk
  exact ⟨j, k, hk⟩

theorem continued_turn (hs : s.IsCalm) {d : String} (hd : m.document = .text d) (voice : Voice)
    (p : Progress) (persona : Persona) (j : List Entry)
    (hx : m₀.carry x = (m.withJournal j).carry (do
      takeTurn s voice p persona
      return none)) : Continued s m (m₀.concluded s x) := by
  obtain ⟨d', hd'⟩ := (Unedited.appended s (fun id now => .placeholder id now persona.sender)
    (m.withJournal j)).text hs hd
  obtain ⟨k, hk⟩ := carry_takeTurn hs voice p hd'
  rw [isCancelled_withJournal] at hk
  cases hc : m.isCancelled with
  | true =>
    rw [hc, if_pos rfl] at hk
    exact .stopped (follows_concluded hs (hx.trans (carry_bind_error hk _)) rfl)
  | false =>
  rw [hc, if_neg Bool.false_ne_true] at hk
  generalize hm₁ : (m.withJournal j).appended s
    (fun id now => .placeholder id now persona.sender) = m₁ at hk
  cases hc₁ : m₁.isCancelled with
  | true =>
    rw [hc₁, if_pos rfl] at hk
    have hplaced : Follows (appended s fun id now => .placeholder id now persona.sender) m m₁ :=
      hm₁ ▸ Follows.now _ m j
    exact .stoppedLate hplaced
      (follows_concluded hs (j := m₁.journal) (hx.trans (carry_bind_error hk _)) rfl)
  | false =>
    rw [hc₁, if_neg Bool.false_ne_true] at hk
    obtain ⟨i, hi⟩ := concluded_eq hs (hx.trans ((carry_bind_ok hk _).trans (carry_pure _ none)))
    rw [hi]
    exact .waits ⟨j, k, by rw [hm₁]⟩ rfl rfl rfl rfl

theorem continued_afterTurn (hs : s.IsCalm) {d : String} (hd : m.document = .text d) (voice : Voice)
    (p : Progress) (marked : Bool) (hx : m₀.carry x = m.carry (afterTurn s voice p marked)) :
    Continued s m (m₀.concluded s x) := by
  -- only behind the second turn of an iteration can a debate end
  cases hp : p.position with
  | first =>
    rw [carry_afterTurn_first s voice hp] at hx
    exact continued_turn hs hd voice _ _ m.journal hx
  | second before =>
  by_cases hagreed : p.agentDriven ∧ before ∧ marked
  · obtain ⟨hdriven, rfl, rfl⟩ := hagreed
    obtain ⟨j, hj⟩ := carry_afterTurn_agreed hs voice hp hdriven m
    generalize hm₁ : (m.withJournal j).appended s
      (fun id now => .notice id now consensusNotice) = m₁ at hj
    have hsaid : Follows (appended s fun id now => .notice id now consensusNotice) m m₁ :=
      hm₁ ▸ Follows.now _ m j
    exact .agreed hsaid (follows_concluded hs (j := m₁.journal) (hx.trans hj) rfl)
  · obtain ⟨j, hj⟩ := carry_afterTurn_second s voice hp marked hagreed m
    rw [hj] at hx
    split at hx
    · exact continued_turn hs hd voice _ _ j hx
    · exact .complete (follows_concluded hs hx rfl)

theorem continued_beginDebate (hs : s.IsCalm) {d : String} (hd : m.document = .text d)
    (voice : Voice) (text : String) :
    Continued s m (m.concluded s (do
      beginDebate s voice (.text text)
      return none)) := by
  cases hn : m.settings.iterations with
  | ok n =>
    obtain ⟨j, hj⟩ := carry_beginDebate s voice hn text
    exact continued_turn hs hd voice _ _ j hj
  | error e =>
    have hbegin : m.carry (do
        beginDebate s voice (.text text)
        return (none : Option Outcome)) = (.error e, m) := by
      refine carry_bind_error ?_ _
      rw [beginDebate, carry_bind_ok (carry_get m)]
      dsimp only
      rw [hn, carry_bind_error (carry_lift _ _)]
    cases he : closingOutcome (.error e : Except Fault (Option Outcome)) with
    | none => cases e <;> cases he
    | some o =>
      have hend := follows_concluded hs (j := m.journal) hbegin he
      cases o with
      | cancelled => exact .stopped hend
      | failed => exact .failed hend
      | complete => exact .complete hend

/-- the choice of a service only leaves entries in the journal -/
theorem exists_carry_chooseVoice (s : Surroundings σ) (m : Moderator σ) :
    ∃ r j, m.carry (chooseVoice s) = (r, m.withJournal j) := by
  rw [chooseVoice, carry_bind_ok (carry_get m)]
  cases m.settings.hasTooFewTurns with
  | error e => exact ⟨_, m.journal, carry_bind_error (carry_lift _ _) _⟩
  | ok few =>
    rw [carry_bind_ok (carry_lift _ _)]
    cases few with
    | true => exact ⟨_, m.journal, rfl⟩
    | false =>
      rw [if_neg Bool.false_ne_true]
      cases s.voice with
      | some name => exact ⟨_, m.journal, rfl⟩
      | none =>
        obtain ⟨j, hj⟩ :=
          carry_remarks .warning (Provider.select m.settings.providers s.environment).1 m
        dsimp only
        rw [carry_bind_ok hj]
        cases (Provider.select m.settings.providers s.environment).2 with
        | error e => exact ⟨_, j, carry_bind_error (carry_lift _ _) _⟩
        | ok p => exact ⟨_, j, carry_bind_ok (carry_lift _ _) _⟩

/-- a request while no run is under way: it is refused, or a debate on it begins -/
theorem continued_submit (hs : s.IsCalm) (hrun : m.running = false) {d : String}
    (hd : m.document = .text d) (text : String) (image : Value) :
    (∃ e j, m.carry (submit s (.text text) image) = (.error e, m.withJournal j)) ∨
      ∃ m₁, Follows (requested s text image) m m₁ ∧
        Continued s m₁ (m.step s (.told (.submit (.text text) image))) := by
  obtain ⟨r, j, hj⟩ := exists_carry_chooseVoice s m
  cases r with
  | error e =>
    left
    refine ⟨e, j, ?_⟩
    rw [submit, carry_bind_ok (carry_get m), hrun, if_neg Bool.false_ne_true, carry_bind_error hj]
  | ok voice =>
    right
    obtain ⟨d', hd'⟩ := (Unedited.appended s (fun id now => .request id now (.text text) image)
      (m.withJournal j)).text hs hd
    refine ⟨(m.withJournal j).requested s text image, ⟨j, _, rfl⟩, ?_⟩
    have hdocument : ((m.withJournal j).requested s text image).document = .text d' := hd'
    rw [step_submit hs hrun hj]
    exact continued_beginDebate hs hdocument voice text

end Moderator

open Moderator in
/-- what becomes of a run that waits for the reply to a call -/
inductive Replied (s : Surroundings σ) (c : Call) (m : Moderator σ) : Moderator σ → Prop where
  /-- a turn of a debate went well -/
  | went {m₁ m' : Moderator σ} {p : Progress} {r : Turn.Result} (htask : c.task = .debate p)
      (hr : ∃ t, r.document = .text t) (hturn : Follows (committed s c (.ok r)) m m₁)
      (hrest : Continued s m₁ m') : Replied s c m m'
  /-- a turn of a debate was cancelled -/
  | cancelled {m₁ m' : Moderator σ} {p : Progress} {e : Fault} (htask : c.task = .debate p)
      (hturn : Follows (committed s c (.error e)) m m₁)
      (hend : Follows (settled s .cancelled) m₁ m') : Replied s c m m'
  /-- a turn of a debate failed -/
  | broke {m₁ m₂ m' : Moderator σ} {p : Progress} {e : Fault} (htask : c.task = .debate p)
      (hturn : Follows (committed s c (.error e)) m m₁) (hbroken : Follows (broken s c e) m₁ m₂)
      (hend : Follows (settled s .failed) m₂ m') : Replied s c m m'
  /-- a turn was taken once more -/
  | replayed {m₁ m₂ m₃ m' : Moderator σ} {previous : Message} {r : Except Fault Turn.Result}
      (htask : c.task = .retry previous) (hr : ∀ t, r = .ok t → ∃ d, t.document = .text d)
      (hturn : Follows (committed s c r) m m₁)
      (hplayed : Follows (playedBack s r) m₁ m₂) (hmended : Follows (mended s previous r) m₂ m₃)
      (hend : Follows (settled s (retryOutcome r)) m₃ m') : Replied s c m m'

namespace Moderator

variable {s : Surroundings σ} {m : Moderator σ} {c : Call}

theorem text_document_committed (hs : s.IsCalm) {d : String} (hm : m.document = .text d)
    (hedit : m.store.pendingEdit = .null ∨ ∃ t, m.store.pendingEdit = .text t)
    {r : Except Fault Turn.Result} (hr : ∀ t, r = .ok t → ∃ d, t.document = .text d) :
    ∃ t, (m.committed s c r).document = .text t := by
  have hmade : ∃ t, Turn.made m.document r = .text t := by
    cases r with
    | error e => exact ⟨d, hm⟩
    | ok r => exact hr r rfl
  rcases document_committed s c r m hs with h | h
  · rw [h]
    rcases hedit with hp | ⟨t, hp⟩
    · rw [if_pos hp]
      exact hmade
    · rw [if_neg (by rw [hp]; nofun)]
      exact ⟨t, hp⟩
  · exact hs.editsText _ h

/-- the notepad that a turn makes is a text -/
theorem text_document_ending {d : String} (hc : c.document = .text d) {clock : Double}
    {cancelled : Bool} {reply : Except Fault Value} {t : Turn.Result}
    (h : c.ending clock cancelled reply = .ok t) : ∃ d, t.document = .text d := by
  obtain ⟨-, value, -, hresult⟩ := Call.ending_eq_ok h
  exact ⟨_, Call.document_of_result hc hresult⟩

/-- a reply to a run that waits for it -/
theorem replied_step (hs : s.IsCalm) (hcall : m.call = some c) {d d' : String}
    (hc : c.document = .text d) (hm : m.document = .text d')
    (hedit : m.store.pendingEdit = .null ∨ ∃ t, m.store.pendingEdit = .text t)
    (reply : Except Fault Value) : Replied s c m (m.step s (.replied reply)) := by
  have hr : ∀ t, c.ending m.clock m.isCancelled reply = .ok t → ∃ d, t.document = .text d :=
    fun t => text_document_ending hc
  cases htask : c.task with
  | retry previous =>
    obtain ⟨i, j, k, l, hl⟩ := carry_continueRetry hs c previous reply m
    rw [step_replied_retry hcall htask, hl]
    dsimp only
    generalize c.ending m.clock m.isCancelled reply = r at hr ⊢
    generalize hm₁ : ((m.withJournal i).committed s c r).withJournal j = m₁
    generalize hm₂ : m₁.playedBack s r = m₂
    generalize hm₃ : (m₂.withJournal k).mended s previous r = m₃
    have hturn : Follows (committed s c r) m m₁ := ⟨i, j, hm₁.symm⟩
    have hplayed : Follows (playedBack s r) m₁ m₂ := hm₂ ▸ Follows.now _ _ m₁.journal
    have hmended : Follows (mended s previous r) m₂ m₃ := hm₃ ▸ Follows.now _ _ k
    exact .replayed htask hr hturn hplayed hmended ⟨m₃.journal, l, rfl⟩
  | debate p =>
    obtain ⟨i, j, hfin⟩ := carry_finishTurn hs c reply m
    have hnotepad : (m.withJournal i).document = .text d' := hm
    have hkept : (m.withJournal i).store.pendingEdit = .null ∨
      ∃ t, (m.withJournal i).store.pendingEdit = .text t := hedit
    rw [step_replied hcall htask]
    dsimp only at hfin
    generalize c.ending m.clock m.isCancelled reply = r at hfin hr
    obtain ⟨t, ht⟩ := text_document_committed (c := c) hs hnotepad hkept hr
    generalize hm₁ : ((m.withJournal i).committed s c r).withJournal j = m₁ at hfin
    have hturn : Follows (committed s c r) m m₁ := ⟨i, j, hm₁.symm⟩
    cases r with
    | ok r =>
      have hdocument : m₁.document = .text t := by
        rw [← hm₁]
        exact ht
      exact .went htask (hr r rfl) hturn (continued_afterTurn hs hdocument _ _ _ (carry_continueDebate_ok hfin))
    | error e =>
      by_cases hc : e = .cancelled ∨ e = .aborted
      · have ho : closingOutcome (.error e) = some .cancelled := by rcases hc with rfl | rfl <;> rfl
        exact .cancelled htask hturn
          (follows_concluded hs (j := m₁.journal) (carry_continueDebate_cancelled hc hfin) ho)
      · rw [not_or] at hc
        obtain ⟨k, hk⟩ := carry_continueDebate_failed (p := p) hs hc.1 hc.2 hfin
        generalize hm₂ : (m₁.withJournal k).broken s c e = m₂ at hk
        have hbroken : Follows (broken s c e) m₁ m₂ := hm₂ ▸ Follows.now _ m₁ k
        exact .broke htask hturn hbroken (follows_concluded hs (j := m₂.journal) hk rfl)

end Moderator

/-! ## retries -/

open Moderator in
/-- what becomes of a moderator that is told to take a failed turn once more -/
inductive Reopened (s : Surroundings σ) (m : Moderator σ) : Moderator σ → Prop where
  /-- there is no failed turn, or no persona or no service for it -/
  | refused (j : List Entry) : Reopened s m (m.withJournal j)
  /-- its message is not there any more -/
  | gone {f : FailedStep} (j : List Entry) (hstep : m.failedStep = some f)
      (hgone : m.store.conversation.find? f.messageId = none) :
      Reopened s m { m.withJournal j with failedStep := none }
  /-- the turn waits for its reply -/
  | waits {m₁ : Moderator σ} {f : FailedStep} {previous : Message} {c : Call}
      (hstep : m.failedStep = some f) (hid : f.messageId = previous.id)
      (hfound : m.store.conversation.find? f.messageId = some previous)
      (hopen : Follows (reopened s previous) m m₁) (htask : c.task = .retry previous)
      (hmessage : c.messageId = previous.id) (hprompt : c.prompt = f.prompt)
      (hdocument : c.document = m₁.document) : Reopened s m (m₁.waitingFor c)
  /-- a listener cancels it at once -/
  | stopped {m₁ m₂ m' : Moderator σ} {f : FailedStep} {previous : Message}
      (hstep : m.failedStep = some f) (hid : f.messageId = previous.id)
      (hfound : m.store.conversation.find? f.messageId = some previous)
      (hopen : Follows (reopened s previous) m m₁)
      (hback : Follows (dispatched s (.replace previous)) m₁ m₂)
      (hend : Follows (settled s .cancelled) m₂ m') : Reopened s m m'

namespace Moderator

variable {s : Surroundings σ} {m : Moderator σ}

/-- a failed turn is to be taken once more while no run is under way -/
theorem reopened_retry (hs : s.IsCalm) (hrun : m.running = false)
    (hstep : ∀ f ∈ m.failedStep, (∃ id, f.messageId = .text id) ∧ ∃ t, f.prompt = .text t) :
    Reopened s m (m.step s (.told .retry)) := by
  rw [step_retry]
  cases hf : m.failedStep with
  | none =>
    rw [retry, carry_bind_ok (carry_get m), hf]
    exact .refused _
  | some f =>
  obtain ⟨⟨id, hid⟩, hprompt⟩ := hstep f hf
  cases hfind : m.store.conversation.find? f.messageId with
  | none =>
    rw [retry, carry_bind_ok (carry_get m), hf]
    dsimp only
    rw [hrun, if_neg Bool.false_ne_true]
    simp only [hfind]
    exact .gone _ hf hfind
  | some previous =>
  -- a retry is refused for want of a persona or of a service, in this order
  have hsame : f.messageId = previous.id := by
    have hhas := List.find?_some hfind
    rw [hid] at hhas ⊢
    exact (Value.eq_of_same_text hhas).symm
  have hrefused (e : Fault) (j : List Entry) (h : m.carry (retry s) = (.error e, m.withJournal j)) :
      Reopened s m (m.carry (retry s)).2 := by
    rw [h]
    exact .refused j
  cases hpersona : m.settings.debater f.sender with
  | error e =>
    refine hrefused e m.journal ?_
    rw [retry, carry_bind_ok (carry_get m), hf]
    dsimp only
    rw [hrun, if_neg Bool.false_ne_true]
    simp only [hfind, hpersona]
    rfl
  | ok persona =>
  obtain ⟨r, j, hj⟩ := exists_carry_chooseVoice s m
  cases r with
  | error e =>
    refine hrefused e j ?_
    rw [retry, carry_bind_ok (carry_get m), hf]
    dsimp only
    rw [hrun, if_neg Bool.false_ne_true]
    simp only [hfind, hpersona]
    exact carry_bind_error hj _
  | ok voice =>
    obtain ⟨k, l, hkl⟩ := Startable.carry_retry hs
      ⟨hrun, hf, hfind, hsame, hprompt, hpersona, hj⟩
    rw [hkl]
    dsimp only
    generalize hm₁ : (m.withJournal j).reopened s previous = m₁
    have hopen : Follows (reopened s previous) m m₁ := hm₁ ▸ Follows.now _ m j
    split
    · generalize hm₂ : (m₁.withJournal k).dispatched s (.replace previous) = m₂
      have hback : Follows (dispatched s (.replace previous)) m₁ m₂ := hm₂ ▸ Follows.now _ m₁ k
      exact .stopped hf hsame hfind hopen hback ⟨m₂.journal, l, rfl⟩
    · have hopen' : Follows (reopened s previous) m (m₁.withJournal k) := by
        rw [← hm₁]
        exact ⟨j, k, rfl⟩
      exact .waits hf hsame hfind hopen' rfl rfl rfl rfl

end Moderator

end Debate
