import Debate.Proofs.Replies

/-!
# The shape of a debate

A debate is under way or over after its request, and stays so with each event: with a reply, and with
whatever other tasks do meanwhile. So this holds after any number of events.

* `Standing.step`, `Standing.during`   one event, and all events of a run;
* `Surroundings.HasVoice`              there is a service that can be asked for replies;
* `Moderator.IsReady`                  the moderator can take a request;
* `Moderator.standing_submit`          the request.
-/

namespace Debate

open Debate.Number

variable {σ : Type}

/-! ## events -/

section

variable {s : Surroundings σ} {st : Settings} {query : String} {n : Int} {before : List Message}
  {rs : List Turn.Result} {c : Call} {xs : List Message} {m : Moderator σ}

/-- what other tasks do beside a run leaves it under way -/
theorem Underway.step_beside (h : Underway st query n before rs c xs m) (s : Surroundings σ)
    {e : Event} (he : e.isBeside = true) : Underway st query n before rs c xs (m.step s e) := by
  have hb := (Moderator.beside_step s h.running h.inFlight he).1
  have hmessages : (m.step s e).messages = m.messages := congrArg (·.messages) hb.conversation
  have hdocument : (m.step s e).document = m.document := congrArg (·.document) hb.conversation
  refine { h with
    settings := hb.settings.trans h.settings
    running := hb.running.trans h.running
    token := hb.token_ne_none h.token
    inFlight := hb.turnInFlight.trans h.inFlight
    pendingEdit := Moderator.pendingEdit_step s h.running h.inFlight he h.pendingEdit
    failedStep := hb.failedStep.trans h.failedStep
    call := hb.call.trans h.call
    notepad := ?_
    log := ?_
    supply := ?_ }
  · rw [hdocument]
    exact h.notepad
  · rw [hmessages]
    exact h.log
  · rw [hmessages]
    exact h.supply.later hb.idOf hb.drawn

/-- one event of a run -/
theorem Standing.step (hs : s.IsCalm) {os : List (Except Fault Turn.Result)}
    (h : Standing s st query n before os m) (hrun : m.running = true) {e : Event}
    (he : e.isOfRun = true) :
    Standing s st query n before (os ++ (m.ending? e).toList) (m.step s e) := by
  rcases h with ⟨rs, c, xs, rfl, h⟩ | ⟨rs, xs, h⟩
  · cases e with
    | replied reply =>
      have hending : m.ending? (.replied reply) = some (c.ending m.clock m.isCancelled reply) := by
        rw [Moderator.ending?, h.call]
        rfl
      rw [hending]
      exact (h.standing_replied hs reply).1
    | attached => cases he
    | told c =>
      rw [show m.ending? (.told c) = none from rfl, Option.toList_none, List.append_nil]
      exact .inl ⟨rs, _, xs, rfl, h.step_beside s he⟩
    | passed now clock =>
      rw [show m.ending? (.passed now clock) = none from rfl, Option.toList_none, List.append_nil]
      exact .inl ⟨rs, _, xs, rfl, h.step_beside s rfl⟩
  · rw [h.idle.running] at hrun
    cases hrun

/-- a run, event after event -/
theorem Standing.during (hs : s.IsCalm) {os : List (Except Fault Turn.Result)}
    (h : Standing s st query n before os m) {es : List Event} (hes : ∀ e ∈ es, e.isOfRun = true) :
    Standing s st query n before (os ++ m.endings s es) (m.during s es) := by
  induction es generalizing m os with
  | nil =>
    rw [Moderator.endings, List.append_nil]
    exact h
  | cons e es ih =>
    cases hrun : m.running with
    | false =>
      rw [Moderator.endings_of_idle s hrun, Moderator.during_of_idle s hrun, List.append_nil]
      exact h
    | true =>
      rw [Moderator.endings_cons s hrun, Moderator.during_cons s hrun, ← List.append_assoc]
      exact ih (h.step hs hrun (hes e List.mem_cons_self))
        fun x hx => hes x (List.mem_cons_of_mem e hx)

/-- while a debate goes on, each reply is the end of one turn -/
theorem Standing.length_endings (hs : s.IsCalm) {os : List (Except Fault Turn.Result)}
    (h : Standing s st query n before os m) {es : List Event} (hes : ∀ e ∈ es, e.isOfRun = true)
    (hrun : (m.during s es).running = true) :
    (m.endings s es).length = es.countP Event.isReply := by
  induction es generalizing m os with
  | nil => rfl
  | cons e es ih =>
    cases hm : m.running with
    | false =>
      rw [Moderator.during_of_idle s hm, hm] at hrun
      cases hrun
    | true =>
      rw [Moderator.during_cons s hm] at hrun
      have hrest := ih (h.step hs hm (hes e List.mem_cons_self))
        (fun x hx => hes x (List.mem_cons_of_mem e hx)) hrun
      have hending : (m.ending? e).toList.length = if e.isReply then 1 else 0 := by
        rcases h with ⟨rs, c, xs, -, h⟩ | ⟨rs, xs, h⟩
        · cases e with
          | replied reply =>
            rw [Moderator.ending?, h.call]
            rfl
          | _ => rfl
        · rw [h.idle.running] at hm
          cases hm
      rw [Moderator.endings_cons s hm, List.length_append, hrest, hending, List.countP_cons,
        Nat.add_comm]

end

/-! ## the request -/

/-- there is a service that can be asked for replies -/
def Surroundings.HasVoice (s : Surroundings σ) (st : Settings) : Prop :=
  s.voice.isSome ∨ ∃ p, (Provider.select st.providers s.environment).2 = .ok p

/-- iterations of which there is at least one are not too few -/
theorem Settings.hasTooFewTurns_of_iterations {st : Settings} {n : Int}
    (hn : st.iterations = .ok n) (hpos : 1 ≤ n) : st.hasTooFewTurns = .ok false := by
  unfold Settings.hasTooFewTurns
  cases hmode : st.mode with
  | agentDriven => rfl
  | fixed =>
    have hlimit : st.limit = st.maxTurns := by rw [Settings.limit, hmode]
    rw [Settings.iterations, hlimit] at hn
    dsimp only
    cases hturns : st.maxTurns with
    | int k =>
      rw [hturns] at hn
      cases hn
      change Except.ok (decide (n * ((1 : Nat) : Int) < 1 * ((1 : Nat) : Int))) = _
      rw [decide_eq_false (by omega)]
    | bool b =>
      rw [hturns] at hn
      cases b
      · have hzero : (0 : Int) = n := Except.ok.inj hn
        omega
      · rfl
    | _ =>
      rw [hturns] at hn
      cases hn

namespace Moderator

variable {s : Surroundings σ} {m : Moderator σ}

/-- the service is found before anything is done -/
theorem carry_chooseVoice (hvoice : s.HasVoice m.settings)
    (hturns : m.settings.hasTooFewTurns = .ok false) :
    ∃ voice j, m.carry (chooseVoice s) = (.ok voice, m.withJournal j) := by
  rw [chooseVoice, carry_bind_ok (carry_get m), hturns, carry_bind_ok (carry_lift m _),
    if_neg Bool.false_ne_true]
  dsimp only
  cases hs : s.voice with
  | some name => exact ⟨.given name, m.journal, rfl⟩
  | none =>
    rcases hvoice with hgiven | ⟨p, hp⟩
    · rw [hs] at hgiven
      cases hgiven
    · obtain ⟨j, hj⟩ :=
        carry_remarks .warning (Provider.select m.settings.providers s.environment).1 m
      refine ⟨.chosen p, j, ?_⟩
      dsimp only
      rw [carry_bind_ok hj, hp, carry_bind_ok (carry_lift _ _), carry_pure]

/-- the moderator after a request, before the debate on it begins -/
def requested (s : Surroundings σ) (text : String) (image : Value) (m : Moderator σ) :
    Moderator σ :=
  { m.appended s fun id now => .request id now (.text text) image with
    failedStep := none, token := some false, running := true }

/-- a request that is not refused: it is added, and the debate on it begins -/
theorem step_submit (hs : s.IsCalm) (hrun : m.running = false) {voice : Voice} {j : List Entry}
    (hvoice : m.carry (chooseVoice s) = (.ok voice, m.withJournal j)) (text : String)
    (image : Value) :
    m.step s (.told (.submit (.text text) image)) =
      ((m.withJournal j).requested s text image).concluded s (do
        beginDebate s voice (.text text)
        return none) := by
  rw [step, obey, snd_carry_map _ _ _ fun a _ => by cases a <;> rfl, submit,
    carry_bind_ok (carry_get m), hrun, if_neg Bool.false_ne_true, carry_bind_ok hvoice,
    carry_append_bind hs (fun id now => .request id now (.text text) image)
      (Conversation.refusal?_request rfl),
    carry_bind_ok (carry_modify _ _), carry_bind_ok (carry_markRunning _)]
  change (((m.withJournal j).requested s text image).carry _).2 = _
  rw [carry_attempt_bind (carry_pair _ _), snd_carry_map _ _ _ fun _ _ => rfl, concluded,
    carry_bind]
  rcases ((m.withJournal j).requested s text image).carry (beginDebate s voice (.text text)) with
    ⟨_ | _, _⟩ <;> rfl

theorem carry_beginDebate (s : Surroundings σ) (voice : Voice) {n : Int}
    (hn : m.settings.iterations = .ok n) (text : String) :
    ∃ j, m.carry (do
        beginDebate s voice (.text text)
        return (none : Option Outcome)) =
      (m.withJournal j).carry (do
        takeTurn s voice (m.settings.progress text n []) (m.settings.speaker 0)
        return none) := by
  obtain ⟨j, hj⟩ := carry_beginIteration s voice (m.settings.progress text n []) m
  have hbegin : m.carry (beginDebate s voice (.text text)) =
      m.carry (beginIteration s voice (m.settings.progress text n [])) := by
    rw [beginDebate, carry_bind_ok (carry_get m)]
    dsimp only
    rw [hn, carry_bind_ok (carry_lift _ _)]
    rfl
  refine ⟨j, ?_⟩
  rw [carry_bind, hbegin, hj, carry_bind]
  rfl

/-- the moderator can take a request, for a debate of a number of iterations -/
structure IsReady (s : Surroundings σ) (n : Int) (m : Moderator σ) : Prop where
  idle : m.IsIdle
  settled : ∀ x ∈ m.messages, x.pending = false
  notepad : ∃ d, m.document = .text d
  voice : s.HasVoice m.settings
  iterations : m.settings.iterations = .ok n
  positive : 1 ≤ n
  agentA : m.settings.agentA.sender = .agentA
  agentB : m.settings.agentB.sender = .agentB
  fresh : m.supply.IsFresh m.messages

/-- the request of a debate, as it is added to the log -/
def requestOf (m : Moderator σ) (text : String) (image : Value) : Message :=
  .request m.supply.draw.1 m.supply.timestamp (.text text) image

/-- a request starts a debate -/
theorem standing_submit (hs : s.IsCalm) {n : Int} (hm : m.IsReady s n) (text : String)
    (image : Value) :
    Standing s m.settings text n (m.messages ++ [m.requestOf text image]) []
        (m.step s (.told (.submit (.text text) image))) ∧
      Landed s m (m.step s (.told (.submit (.text text) image))) := by
  have hpos := hm.positive
  obtain ⟨voice, j, hj⟩ := carry_chooseVoice hm.voice
    (Settings.hasTooFewTurns_of_iterations hm.iterations hm.positive)
  rw [step_submit hs hm.idle.running hj]
  generalize hm₁ : (m.withJournal j).requested s text image = m₁
  have hsettings : m₁.settings = m.settings := by
    rw [← hm₁]
    exact settings_appended s _ (m.withJournal j)
  have hmessages : m₁.messages = m.messages ++ [m.requestOf text image] := by
    rw [← hm₁]
    exact messages_appended s _ (m.withJournal j)
  have hkept : Unedited s m m₁ := by
    rw [← hm₁]
    exact Unedited.appended s _ (m.withJournal j)
  have htalk : Talk m.settings n (m.messages ++ [m.requestOf text image]) [] [] := by
    refine ⟨Said.nil _, ?_, ?_, fun _ i hi => ?_⟩
    · intro x hx
      rw [List.append_nil] at hx
      rcases List.mem_append.mp hx with hx | hx
      · exact hm.settled x hx
      · rw [List.mem_singleton.mp hx]
        rfl
    · rw [List.length_nil]
      omega
    · exact absurd hi.lt (Nat.not_lt_zero _)
  obtain ⟨k, hk⟩ := carry_beginDebate s voice
    (show m₁.settings.iterations = .ok n from hsettings ▸ hm.iterations) text
  rw [hsettings] at hk
  have hbetween : Between s m.settings (m.messages ++ [m.requestOf text image] ++ [])
      (m₁.withJournal k) := by
    refine Between.withJournal ?_ k
    rw [List.append_nil]
    constructor
    · exact hsettings
    · rw [← hm₁]
      rfl
    · rw [← hm₁]
      exact .inl rfl
    · rw [← hm₁]
      exact (turnInFlight_appended s _ (m.withJournal j)).trans hm.idle.inFlight
    · rw [← hm₁]
      exact (pendingEdit_appended s _ (m.withJournal j) hm.idle.inFlight).trans
        hm.idle.pendingEdit
    · rw [← hm₁]
      rfl
    · rw [← hm₁]
      exact (call_appended s _ (m.withJournal j)).trans hm.idle.call
    · obtain ⟨d, hd⟩ := hm.notepad
      exact hkept.text hs hd
    · exact hmessages
    · rw [hmessages, ← hm₁]
      exact (supply_appended s _ (m.withJournal j)).symm ▸ hm.fresh.append rfl
  exact (standing_turn hs htalk hbetween hk).imp_right fun h => hkept.landed h.of_withJournal

/-- a debate from its request on, whatever its replies are and whatever other tasks do meanwhile: the
log is the old one, the request, the messages of the turns that went well, and a tail. While the
debate waits, the tail is the placeholder of the next turn, and there were as many replies as turns;
otherwise it is settled in one of the ways in which debates end -/
theorem debate_shape (hs : s.IsCalm) {n : Int} (hm : m.IsReady s n) (text : String)
    (image : Value) {es : List Event} (hes : ∀ e ∈ es, e.isOfRun = true) :
    let m₁ := m.step s (.told (.submit (.text text) image))
    let m' := m₁.during s es
    let os := m₁.endings s es
    ∃ rs xs tail, m'.messages = m.messages ++ [m.requestOf text image] ++ xs ++ tail ∧
      Said m.settings rs xs ∧
      (m'.running = true ∧ os = rs.map .ok ∧ es.countP Event.isReply = rs.length ∧
          (rs.length : Int) < 2 * n ∧ (m.settings.mode = .agentDriven → ∀ i, ¬ Agree rs i) ∧
          (∃ id now, tail = [.placeholder id now (m.settings.speaker rs.length).sender]) ∨
        m'.IsIdle ∧ ∃ outcome, m'.lastOutcome = some outcome ∧
          Closing s m.settings n rs os outcome tail ∧
          m'.failedStep.map (·.messageId) =
            if outcome = .failed then tail.head?.map (·.id) else none) := by
  intro m₁ m' os
  have hstart := (standing_submit hs hm text image).1
  have hend := hstart.during hs hes
  rw [List.nil_append] at hend
  rcases hend with ⟨rs, c, xs, hos, h⟩ | ⟨rs, xs, h⟩
  · obtain ⟨id, now, -, hlog, -⟩ := h.log
    have hcount : os.length = es.countP Event.isReply :=
      hstart.length_endings hs hes h.running
    refine ⟨rs, xs, _, hlog, h.talk.said, .inl ⟨h.running, hos, ?_, h.talk.short, h.talk.apart, id,
      now, rfl⟩⟩
    rw [← hcount, show os = rs.map .ok from hos, List.length_map]
  · obtain ⟨outcome, tail, hout, hlog, hclosing, hstep⟩ := h.closing
    exact ⟨rs, xs, tail, hlog, h.said, .inr ⟨h.idle, outcome, hout, hclosing, hstep⟩⟩

/-- an empty conversation with its ids in unary, for a debate of one iteration -/
def opened : Moderator Unit where
  settings := { mode := .fixed, maxTurns := .int 1 }
  store := { conversation := { id := .text "", createdAt := .text "" } }
  audience := ()
  supply := { idOf := fun k => String.ofList (List.replicate k 'i'), now := ⟨0, 0⟩ }

theorem isReady_opened : opened.IsReady .silent 1 where
  idle := ⟨rfl, rfl, rfl, rfl, rfl⟩
  settled := nofun
  notepad := ⟨"", rfl⟩
  voice := .inl rfl
  iterations := rfl
  positive := by decide
  agentA := rfl
  agentB := rfl
  fresh := by
    refine ⟨fun j k _ _ h => ?_, fun _ _ => nofun⟩
    have hlists : List.replicate j 'i' = List.replicate k 'i' := String.ofList_injective h
    simpa using congrArg List.length hlists

/-- a debate of one iteration is settled after two replies -/
theorem debate_shape_opened :
    Surroundings.silent.IsCalm ∧ opened.IsReady .silent 1 ∧
      ((opened.step .silent (.told (.submit (.text "Go") .null))).during .silent
        [.replied (.ok (.text "one")), .replied (.ok (.text "two"))]).running = false := by
  refine ⟨Surroundings.isCalm_silent, isReady_opened, ?_⟩
  have hes : ∀ e ∈ [Event.replied (.ok (.text "one")), .replied (.ok (.text "two"))],
    e.isOfRun = true := by decide
  obtain ⟨rs, xs, tail, -, -, ⟨-, -, hcount, hshort, -⟩ | ⟨hidle, -⟩⟩ :=
    debate_shape Surroundings.isCalm_silent isReady_opened "Go" .null hes
  · have htwo : 2 = rs.length := hcount
    omega
  · exact hidle.running

end Moderator

end Debate
