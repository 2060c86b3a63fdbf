import Debate.Proofs.Events

/-!
# The course of a debate

Between two replies a debate waits with a placeholder at the end of the log. `Underway` says what is
known of it then, and each event keeps that or settles the debate: so it holds of every history, by
induction over the events.

* `Settings.speaker`     the persona of a turn, counted from zero;
* `Said`                 the messages of the turns that went well;
* `Agree`                both replies of an iteration hold the marker;
* `Supply.IsFresh`       ids that are still to be drawn are new;
* `Settings.prompt`      the prompt of a turn;
* `Underway`             a debate that waits for a reply;
* `Between`              a debate between two turns;
* `Closing`              how a debate ends, and with which messages at the end of its log;
* `Over`                 a debate that is settled;
* `Standing`             a debate that is under way or over.
-/

namespace Debate

open Debate.Number

variable {σ : Type}

/-! ## the notions -/

/-- the persona of a turn, counted from zero -/
def Settings.speaker (st : Settings) (turn : Nat) : Persona :=
  if turn % 2 = 0 then st.agentA else st.agentB

/-- the message of a turn that went well -/
def Turn.Result.IsSaidBy (r : Turn.Result) (p : Persona) (x : Message) : Prop :=
  ∃ id now, x = (Message.placeholder id now p.sender).resolved (.text r.text) (.int r.durationMs)

/-- the messages of the turns that went well, in order -/
structure Said (st : Settings) (rs : List Turn.Result) (xs : List Message) : Prop where
  length : xs.length = rs.length
  said : ∀ (i : Nat) (r : Turn.Result) (x : Message),
    rs[i]? = some r → xs[i]? = some x → r.IsSaidBy (st.speaker i) x

/-- both replies of an iteration, counted from zero, hold the marker -/
def Agree (rs : List Turn.Result) (i : Nat) : Prop :=
  ∃ a b, rs[2 * i]? = some a ∧ rs[2 * i + 1]? = some b ∧ a.sawMarker = true ∧ b.sawMarker = true

/-- ids that are still to be drawn differ from each other and from those of the messages -/
structure Supply.IsFresh (s : Supply) (xs : List Message) : Prop where
  distinct : ∀ j k, s.drawn ≤ j → s.drawn ≤ k → s.idOf j = s.idOf k → j = k
  unused : ∀ k, s.drawn ≤ k → ∀ x ∈ xs, x.hasId (.text (s.idOf k)) = false

/-- a line of the history of a discussion -/
def Settings.line (st : Settings) (x : Message) : String :=
  st.displayName x.sender ++ ": " ++ x.text.shown

/-- the prompt of a turn, for the messages before it and the notepad as it is when it starts -/
def Settings.prompt (st : Settings) (query : String) (turn : Nat) (xs : List Message)
    (notepad : String) : String :=
  Prompt.text {
    systemPrompt := (st.speaker turn).systemPrompt.shown
    personaName := (st.speaker turn).title
    turnCue := (st.speaker turn).turnCue.shown
    history := xs.map st.line
    userQuery := query
    document := notepad
    agentDriven := st.mode = .agentDriven }

/-- a debate of a number of iterations, after turns that went well -/
def Settings.progress (st : Settings) (query : String) (n : Int) (rs : List Turn.Result) :
    Progress where
  query := query
  iteration := (rs.length / 2 : Nat) + 1
  iterations := n
  limit := st.limit.shown
  agentDriven := st.mode = .agentDriven
  position :=
    if rs.length % 2 = 0 then .first else .second ((rs.getLast?.map (·.sawMarker)).getD false)

/-- the messages before a debate and those of its turns, while it goes on -/
structure Talk (st : Settings) (n : Int) (before : List Message) (rs : List Turn.Result)
    (xs : List Message) : Prop where
  said : Said st rs xs
  settled : ∀ x ∈ before ++ xs, x.pending = false
  short : (rs.length : Int) < 2 * n
  apart : st.mode = .agentDriven → ∀ i, ¬ Agree rs i

/-- a debate that waits for the reply to a call -/
structure Underway (st : Settings) (query : String) (n : Int) (before : List Message)
    (rs : List Turn.Result) (c : Call) (xs : List Message) (m : Moderator σ) : Prop where
  talk : Talk st n before rs xs
  settings : m.settings = st
  running : m.running = true
  token : m.token ≠ none
  inFlight : m.store.turnInFlight = true
  pendingEdit : m.store.pendingEdit = .null ∨ ∃ t, m.store.pendingEdit = .text t
  failedStep : m.failedStep = none
  call : m.call = some c
  task : c.task = .debate (st.progress query n rs)
  persona : c.persona = st.speaker rs.length
  notepad : ∃ d, c.document = .text d ∧ m.document = .text d ∧
    c.prompt = .text (st.prompt query rs.length (before ++ xs) d)
  log : ∃ id now, c.messageId = .text id ∧
    m.messages = before ++ xs ++ [.placeholder id now (st.speaker rs.length).sender] ∧
    ∀ x ∈ before ++ xs, x.hasId (.text id) = false
  supply : m.supply.IsFresh m.messages

/-- a debate between two turns: it may have been cancelled by a listener only -/
structure Between (s : Surroundings σ) (st : Settings) (xs : List Message) (m : Moderator σ) :
    Prop where
  settings : m.settings = st
  running : m.running = true
  token : m.token = some false ∨ m.token = some true ∧ s.Asks .cancel
  inFlight : m.store.turnInFlight = false
  pendingEdit : m.store.pendingEdit = .null
  failedStep : m.failedStep = none
  call : m.call = none
  notepad : ∃ d, m.document = .text d
  messages : m.messages = xs
  supply : m.supply.IsFresh m.messages

/-- a debate that was cancelled: what is left but its messages will go -/
structure Halted (xs : List Message) (m : Moderator σ) : Prop where
  inFlight : m.store.turnInFlight = false
  pendingEdit : m.store.pendingEdit = .null
  failedStep : m.failedStep = none
  call : m.call = none
  settled : m.store.conversation.settled = xs

/-- the notepad before and after: it is the same unless a listener asks for an edit -/
def Unedited (s : Surroundings σ) (m m' : Moderator σ) : Prop :=
  m'.document = m.document ∨ s.Asks (.edit m'.document)

/-- the notepad before and after, with no edit kept back -/
structure Landed (s : Surroundings σ) (m m' : Moderator σ) : Prop where
  notepad : Unedited s m m'
  pendingEdit : m'.store.pendingEdit = .null

/-- how a debate ends after turns that went well: how all its turns ended, how it settles, and the
messages that are left at the end of its log -/
inductive Closing (s : Surroundings σ) (st : Settings) (n : Int) (rs : List Turn.Result) :
    List (Except Fault Turn.Result) → Outcome → List Message → Prop where
  /-- after the last iteration -/
  | exhausted : (rs.length : Int) = 2 * n → (st.mode = .agentDriven → ∀ i, ¬ Agree rs i) →
      Closing s st n rs (rs.map .ok) .complete []
  /-- after the first iteration in which both personas want to end -/
  | agreed (i : Nat) (id now : String) : st.mode = .agentDriven → rs.length = 2 * (i + 1) →
      Agree rs i → (∀ j < i, ¬ Agree rs j) →
      Closing s st n rs (rs.map .ok) .complete [.notice id now Moderator.consensusNotice]
  /-- with a turn that failed -/
  | failed (e : Fault) (id now : String) : e ≠ .cancelled → e ≠ .aborted →
      Closing s st n rs (rs.map .ok ++ [.error e]) .failed
        [(Message.placeholder id now (st.speaker rs.length).sender).failed
          (Moderator.failureText e)]
  /-- with a turn that was cancelled -/
  | cancelled (e : Fault) (id now : String) : e = .cancelled ∨ e = .aborted →
      Closing s st n rs (rs.map .ok ++ [.error e]) .cancelled
        [.notice id now Moderator.cancelledNotice]
  /-- cancelled by a listener before a turn was started -/
  | stopped (id now : String) : s.Asks .cancel →
      Closing s st n rs (rs.map .ok) .cancelled [.notice id now Moderator.cancelledNotice]

/-- a debate that is settled; a turn that failed is kept for a retry -/
structure Over (s : Surroundings σ) (st : Settings) (n : Int) (before : List Message)
    (rs : List Turn.Result) (os : List (Except Fault Turn.Result)) (xs : List Message)
    (m : Moderator σ) : Prop where
  said : Said st rs xs
  idle : m.IsIdle
  closing : ∃ outcome tail, m.lastOutcome = some outcome ∧ m.messages = before ++ xs ++ tail ∧
    Closing s st n rs os outcome tail ∧
    m.failedStep.map (·.messageId) = if outcome = .failed then tail.head?.map (·.id) else none

/-- a debate is under way, or it is over -/
def Standing (s : Surroundings σ) (st : Settings) (query : String) (n : Int)
    (before : List Message) (os : List (Except Fault Turn.Result)) (m : Moderator σ) : Prop :=
  (∃ rs c xs, os = rs.map .ok ∧ Underway st query n before rs c xs m) ∨
    ∃ rs xs, Over s st n before rs os xs m

/-! ## turns and messages -/

theorem Said.nil (st : Settings) : Said st [] [] := ⟨rfl, nofun⟩

theorem Said.concat {st : Settings} {rs : List Turn.Result} {xs : List Message} (h : Said st rs xs)
    {r : Turn.Result} {x : Message} (hx : r.IsSaidBy (st.speaker rs.length) x) :
    Said st (rs ++ [r]) (xs ++ [x]) := by
  constructor
  · rw [List.length_append, List.length_append, h.length]
    rfl
  · intro i r' x' hr hx'
    rcases Nat.lt_or_ge i rs.length with hi | hi
    · rw [List.getElem?_append_left hi] at hr
      rw [List.getElem?_append_left (h.length ▸ hi)] at hx'
      exact h.said i r' x' hr hx'
    · rw [List.getElem?_append_right hi] at hr
      rw [List.getElem?_append_right (h.length ▸ hi), h.length] at hx'
      cases hk : i - rs.length with
      | zero =>
        rw [hk] at hr hx'
        cases hr
        cases hx'
        rw [show i = rs.length by omega]
        exact hx
      | succ k =>
        rw [hk] at hr
        cases hr

/-- a first reply in an iteration settles nothing -/
theorem agree_concat_first {rs : List Turn.Result} {r : Turn.Result} (h : rs.length % 2 = 0)
    {i : Nat} : Agree (rs ++ [r]) i ↔ Agree rs i := by
  have hiff : ∀ b, (rs ++ [r])[2 * i + 1]? = some b → 2 * i + 1 < rs.length := by
    intro b hb
    have hlt := (List.getElem?_eq_some_iff.mp hb).1
    rw [List.length_append, List.length_singleton] at hlt
    omega
  constructor
  · rintro ⟨a, b, ha, hb, hm⟩
    have hlt := hiff b hb
    rw [List.getElem?_append_left (by omega)] at ha hb
    exact ⟨a, b, ha, hb, hm⟩
  · rintro ⟨a, b, ha, hb, hm⟩
    have hlt := (List.getElem?_eq_some_iff.mp hb).1
    exact ⟨a, b, by rw [List.getElem?_append_left (by omega), ha],
      by rw [List.getElem?_append_left hlt, hb], hm⟩

/-- a second reply in an iteration can only settle that iteration -/
theorem agree_concat_second {rs : List Turn.Result} {q r : Turn.Result} (h : rs.length % 2 = 0)
    {i : Nat} : Agree (rs ++ [q] ++ [r]) i ↔
      Agree rs i ∨ i = rs.length / 2 ∧ q.sawMarker = true ∧ r.sawMarker = true := by
  have hq : (rs ++ [q] ++ [r])[rs.length]? = some q := by simp
  have hr : (rs ++ [q] ++ [r])[rs.length + 1]? = some r := by simp
  constructor
  · rintro ⟨a, b, ha, hb, hm⟩
    have hlt := (List.getElem?_eq_some_iff.mp hb).1
    simp only [List.length_append, List.length_singleton] at hlt
    by_cases hi : 2 * i + 1 < rs.length
    · left
      rw [List.append_assoc, List.getElem?_append_left (by omega)] at ha hb
      exact ⟨a, b, ha, hb, hm⟩
    · right
      obtain rfl : i = rs.length / 2 := by omega
      rw [show 2 * (rs.length / 2) = rs.length by omega] at ha hb
      rw [hq] at ha
      rw [hr] at hb
      cases ha
      cases hb
      exact ⟨rfl, hm⟩
  · rintro (⟨a, b, ha, hb, hm⟩ | ⟨rfl, hm⟩)
    · have hlt := (List.getElem?_eq_some_iff.mp hb).1
      exact ⟨a, b, by rw [List.append_assoc, List.getElem?_append_left (by omega), ha],
        by rw [List.append_assoc, List.getElem?_append_left hlt, hb], hm⟩
    · rw [Agree, show 2 * (rs.length / 2) = rs.length by omega]
      exact ⟨q, r, hq, hr, hm⟩

/-- an iteration is settled by replies that are there -/
theorem Agree.lt {rs : List Turn.Result} {i : Nat} (h : Agree rs i) : 2 * i + 1 < rs.length := by
  obtain ⟨a, b, -, hb, -⟩ := h
  exact (List.getElem?_eq_some_iff.mp hb).1

namespace Supply.IsFresh

variable {s s' : Supply} {xs ys : List Message}

/-- only the ids of messages matter -/
theorem of_ids (h : s.IsFresh xs) (hys : ∀ y ∈ ys, ∃ x ∈ xs, y.id = x.id) : s.IsFresh ys := by
  refine ⟨h.distinct, fun k hk y hy => ?_⟩
  obtain ⟨x, hx, hid⟩ := hys y hy
  rw [Message.hasId, hid]
  exact h.unused k hk x hx

theorem later (h : s.IsFresh xs) (hid : s'.idOf = s.idOf) (hd : s.drawn ≤ s'.drawn) :
    s'.IsFresh xs := by
  constructor
  · intro j k hj hk
    rw [hid]
    exact h.distinct j k (Nat.le_trans hd hj) (Nat.le_trans hd hk)
  · intro k hk
    rw [hid]
    exact h.unused k (Nat.le_trans hd hk)

/-- a new message takes the next id -/
theorem append (h : s.IsFresh xs) {x : Message} (hx : x.id = .text s.draw.1) :
    s.draw.2.IsFresh (xs ++ [x]) := by
  have hlater : s.draw.2.IsFresh xs := h.later rfl (Nat.le_succ _)
  refine ⟨hlater.distinct, fun k hk y hy => ?_⟩
  rcases List.mem_append.mp hy with hy | hy
  · exact hlater.unused k hk y hy
  · obtain rfl := List.mem_singleton.mp hy
    have hne : s.idOf s.drawn ≠ s.idOf k := by
      intro heq
      have hk' : s.drawn + 1 ≤ k := hk
      have := h.distinct s.drawn k (Nat.le_refl _) (by omega) heq
      omega
    rw [Message.hasId, hx, Value.same_text]
    exact beq_eq_false_iff_ne.mpr hne

end Supply.IsFresh

theorem hasId_placeholder (id now : String) (sender : Sender) :
    (Message.placeholder id now sender).hasId (.text id) = true := Value.same_text_self id

/-- a change of the messages of one id changes one message alone, if no other has the id -/
theorem map_of_hasId {pre post : List Message} {y : Message} {id : Value} (f : Message → Message)
    (hothers : ∀ x ∈ pre ++ post, x.hasId id = false) (hy : y.hasId id = true) :
    (pre ++ y :: post).map (fun x => if x.hasId id then f x else x) = pre ++ f y :: post := by
  have hsame {xs : List Message} (hxs : ∀ x ∈ xs, x.hasId id = false) :
      xs.map (fun x => if x.hasId id then f x else x) = xs := by
    refine (List.map_congr_left fun x hx => ?_).trans (List.map_id xs)
    rw [hxs x hx]
    rfl
  rw [List.map_append, List.map_cons, hsame fun x hx => hothers x (List.mem_append_left _ hx),
    hsame fun x hx => hothers x (List.mem_append_right _ hx), hy, if_pos rfl]

theorem map_concat_of_id {xs : List Message} {y : Message} {id : Value} (f : Message → Message)
    (hxs : ∀ x ∈ xs, x.hasId id = false) (hy : y.hasId id = true) :
    (xs ++ [y]).map (fun x => if x.hasId id then f x else x) = xs ++ [f y] :=
  map_of_hasId f (by rwa [List.append_nil]) hy

/-! ## the notepad -/

theorem Unedited.trans {s : Surroundings σ} {m m' m'' : Moderator σ} (h : Unedited s m m')
    (h' : Unedited s m' m'') : Unedited s m m'' := by
  rcases h' with h' | h'
  · unfold Unedited
    rw [h']
    exact h
  · exact .inr h'

theorem Unedited.landed {s : Surroundings σ} {m m' m'' : Moderator σ} (h : Unedited s m m')
    (h' : Landed s m' m'') : Landed s m m'' := ⟨h.trans h'.notepad, h'.pendingEdit⟩

/-- the journal does not matter -/
theorem Landed.of_withJournal {s : Surroundings σ} {m m' : Moderator σ} {j : List Entry}
    (h : Landed s (m.withJournal j) m') : Landed s m m' := ⟨h.notepad, h.pendingEdit⟩

theorem Unedited.appended (s : Surroundings σ) (make : String → String → Message)
    (m : Moderator σ) : Unedited s m (m.appended s make) := Moderator.document_appended s make m

theorem Unedited.settled (s : Surroundings σ) (outcome : Outcome) (m : Moderator σ) :
    Unedited s m (m.settled s outcome) := Moderator.document_settled s outcome m

/-- a notepad that is a text stays one, whatever listeners ask for -/
theorem Unedited.text {s : Surroundings σ} (hs : s.IsCalm) {m m' : Moderator σ}
    (h : Unedited s m m') {d : String} (hd : m.document = .text d) :
    ∃ d', m'.document = .text d' := by
  rcases h with h | h
  · exact ⟨d, h.trans hd⟩
  · exact hs.editsText _ h

/-! ## starting a turn -/

namespace Moderator

variable {s : Surroundings σ} {st : Settings} {query : String} {n : Int} {before : List Message}
  {rs : List Turn.Result} {xs : List Message} {m : Moderator σ}

/-- what was said so far, when nothing is pending -/
theorem history_eq (hset : m.settings = st) (hmsg : m.messages = xs)
    (hxs : ∀ x ∈ xs, x.pending = false) : history m = xs.map st.line := by
  have hsettled : m.store.conversation.settled = xs := by
    rw [Conversation.settled, show m.store.conversation.messages = xs from hmsg]
    exact List.filter_eq_self.mpr fun x hx => by rw [hxs x hx]; rfl
  rw [history, hsettled, hset]
  rfl

/-- between two turns: the next turn waits for its reply, or a listener has cancelled the debate -/
theorem carry_takeTurn_between (hs : s.IsCalm) (htalk : Talk st n before rs xs)
    (hm : Between s st (before ++ xs) m)
    (voice : Voice) :
    (∃ m' c, m.carry (takeTurn s voice (st.progress query n rs) (st.speaker rs.length)) =
        (.ok (), m') ∧ Underway st query n before rs c xs m' ∧ Landed s m m') ∨
      ∃ m', m.carry (takeTurn s voice (st.progress query n rs) (st.speaker rs.length)) =
        (.error .cancelled, m') ∧ s.Asks .cancel ∧ Halted (before ++ xs) m' ∧ Unedited s m m' := by
  obtain ⟨d₀, hd₀⟩ := hm.notepad
  have hkept := Unedited.appended s
    (fun id now => .placeholder id now (st.speaker rs.length).sender) m
  obtain ⟨d, hd⟩ := hkept.text hs hd₀
  obtain ⟨j, hj⟩ := carry_takeTurn hs voice (st.progress query n rs) hd
  have hsettled : (before ++ xs).filter (fun x => !x.pending) = before ++ xs :=
    List.filter_eq_self.mpr fun x hx => by rw [htalk.settled x hx]; rfl
  rcases hm.token.symm with ⟨htoken, hasks⟩ | htoken
  · refine .inr ⟨m, ?_, hasks, ?_, .inl rfl⟩
    · rw [hj, isCancelled, htoken]
      rfl
    · refine ⟨hm.inFlight, hm.pendingEdit, hm.failedStep, hm.call, ?_⟩
      rw [Conversation.settled, show m.store.conversation.messages = _ from hm.messages, hsettled]
  have hopen : m.isCancelled = false := by
    rw [isCancelled, htoken]
    rfl
  rw [hj, hopen]
  dsimp only
  rw [if_neg Bool.false_ne_true]
  generalize hplace : (fun id now => Message.placeholder id now (st.speaker rs.length).sender) =
    place at hkept hd ⊢
  have hmessages := messages_appended s place m
  have hpending := pendingEdit_appended s place m hm.inFlight
  rcases token_appended s place m with ht | ⟨-, ht, hasks⟩
  · left
    have hgo : (m.appended s place).isCancelled = false := by
      rw [isCancelled, ht, htoken]
      rfl
    rw [hgo, if_neg Bool.false_ne_true, history_eq hm.settings hm.messages htalk.settled,
      hm.settings]
    refine ⟨_, {
      task := .debate (st.progress query n rs), voice, persona := st.speaker rs.length
      messageId := .text m.supply.draw.1
      prompt := .text (st.prompt query rs.length (before ++ xs) d)
      document := .text d, started := m.clock }, rfl, ?_, hkept, hpending.trans hm.pendingEdit⟩
    constructor
    · exact htalk
    · exact (settings_appended s place m).trans hm.settings
    · exact (running_appended s place m).trans hm.running
    · change (m.appended s place).token ≠ none
      rw [ht, htoken]
      nofun
    · rfl
    · exact .inl (hpending.trans hm.pendingEdit)
    · exact (failedStep_appended s place m).trans hm.failedStep
    · rfl
    · rfl
    · rfl
    · exact ⟨d, rfl, hd, rfl⟩
    · refine ⟨m.supply.draw.1, m.supply.timestamp, rfl, ?_, ?_⟩
      · change (m.appended s place).messages = _
        rw [hmessages, hm.messages, ← hplace]
      · intro x hx
        exact hm.supply.unused _ (Nat.le_refl _) x (hm.messages ▸ hx)
    · change (m.appended s place).supply.IsFresh (m.appended s place).messages
      rw [hmessages, supply_appended, ← hplace]
      exact hm.supply.append rfl
  · right
    have hstop : (m.appended s place).isCancelled = true := by
      rw [isCancelled, ht]
      rfl
    rw [hstop, if_pos rfl]
    refine ⟨_, rfl, hasks, ?_, hkept⟩
    constructor
    · exact (turnInFlight_appended s place m).trans hm.inFlight
    · exact hpending.trans hm.pendingEdit
    · exact (failedStep_appended s place m).trans hm.failedStep
    · exact (call_appended s place m).trans hm.call
    · rw [Conversation.settled, show (m.appended s place).store.conversation.messages = _
        from hmessages, hm.messages, List.filter_append, hsettled, ← hplace]
      exact List.append_nil _

end Moderator

end Debate
