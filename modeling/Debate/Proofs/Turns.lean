import Debate.Proofs.Listening

/-!
# What the steps of a turn do

For listeners that do not fail, each step of a turn is summed up once: whether it ends in a fault,
and the moderator after it. Entries of the journal are left open. A listener that fails changes
nothing of the moderator after a turn; it only makes its result a fault.

* `Call.ending`            how a turn ends with a reply: its result, or why it has none;
* `Moderator.appended`     the moderator after a new message with an id and a time of its own;
* `Moderator.turnEnded`    the moderator after the end of a turn, with the edit that was kept back;
* `Moderator.waitingFor`   the moderator that waits for the reply to a call;
* `Moderator.committed`    the moderator after a turn;
* `Moderator.yields_finishTurn`   a turn from its reply on, whatever the listeners do;
* `Moderator.settled`      the moderator after a run;
* `Moderator.IsIdle`       nothing is left of a run.
-/

namespace Debate

variable {σ α : Type}

/-- what a turn makes of what its reply holds -/
def Call.result (c : Call) (clock : Number.Double) (value : Value) : Except Fault Turn.Result := do
  let raw ← Turn.replyText value
  let parsed ← Turn.parsed raw
  let document ← (Notepad.edited c.document parsed.edits).1
  let took ← Turn.milliseconds c.started clock
  return Turn.ofReply c.persona document raw parsed took

/-- how a turn ends with a reply, given the clock and whether its run is cancelled by then: a reply
that fails is looked at first -/
def Call.ending (c : Call) (clock : Number.Double) (cancelled : Bool) :
    Except Fault Value → Except Fault Turn.Result
  | .error e => .error e
  | .ok value => if cancelled then .error .cancelled else c.result clock value

/-- the notepad that a turn makes of the one it finds -/
def Turn.made (notepad : Value) : Except Fault Turn.Result → Value
  | .ok r => r.document
  | .error _ => notepad

/-- the edits that a reply makes -/
def Turn.editsOf : Value → List Notepad.Edit
  | .text raw =>
    match Turn.parsed raw with
    | .ok parsed => parsed.edits
    | .error _ => []
  | _ => []

theorem Turn.replyText_eq_ok {value : Value} {raw : String} (h : Turn.replyText value = .ok raw) :
    value = .text raw := by
  unfold Turn.replyText at h
  split at h
  · cases h
  cases value with
  | text s =>
    dsimp only at h
    split at h
    · cases h
    · cases h
      rfl
  | _ => cases h

/-- a turn that goes well makes the edits of its reply to the notepad as it was when it started -/
theorem Call.document_of_result {c : Call} {clock : Number.Double} {value : Value}
    {r : Turn.Result} {d : String} (hd : c.document = .text d) (hr : c.result clock value = .ok r) :
    r.document = .text (Notepad.Edit.applyAll (Turn.editsOf value) d) := by
  unfold Call.result at hr
  cases hraw : Turn.replyText value with
  | error e =>
    rw [hraw] at hr
    cases hr
  | ok raw =>
  cases hparsed : Turn.parsed raw with
  | error e =>
    simp only [hraw, hparsed, bind, Except.bind] at hr
    cases hr
  | ok parsed =>
  simp only [hraw, hparsed, hd, Notepad.edited_text, bind, Except.bind] at hr
  split at hr
  · cases hr
  · cases hr
    rw [Turn.replyText_eq_ok hraw, Turn.editsOf, hparsed]
    rfl

/-- a turn goes well if its reply arrives before it is cancelled, and something can be made of it -/
theorem Call.ending_eq_ok {c : Call} {clock : Number.Double} {cancelled : Bool}
    {reply : Except Fault Value} {r : Turn.Result} (h : c.ending clock cancelled reply = .ok r) :
    cancelled = false ∧ ∃ value, reply = .ok value ∧ c.result clock value = .ok r := by
  cases reply with
  | error e => cases h
  | ok value =>
    cases cancelled
    · exact ⟨rfl, value, rfl, h⟩
    · cases h

namespace Moderator

variable {s : Surroundings σ} {m : Moderator σ}

/-- the moderator with another journal -/
def withJournal (j : List Entry) (m : Moderator σ) : Moderator σ := { m with journal := j }

@[simp] theorem withJournal_withJournal (i j : List Entry) (m : Moderator σ) :
    (m.withJournal i).withJournal j = m.withJournal j := rfl

@[simp] theorem isCancelled_withJournal (j : List Entry) (m : Moderator σ) :
    (m.withJournal j).isCancelled = m.isCancelled := rfl

@[simp] theorem clock_withJournal (j : List Entry) (m : Moderator σ) :
    (m.withJournal j).clock = m.clock := rfl

/-! ## new messages -/

/-- the moderator after a new message with an id and a time of its own -/
def appended (s : Surroundings σ) (make : String → String → Message) (m : Moderator σ) :
    Moderator σ :=
  dispatched s (.append (make m.supply.draw.1 m.supply.timestamp))
    { m with supply := m.supply.draw.2 }

theorem carry_append_bind (hs : s.IsCalm) (make : String → String → Message)
    (h : m.store.conversation.refusal? (.append (make m.supply.draw.1 m.supply.timestamp)) = none)
    (k : String → String → Moderating σ α) :
    m.carry (do
      let id ← newId
      let now ← timestamp
      dispatch s (.append (make id now))
      k id now) = (m.appended s make).carry (k m.supply.draw.1 m.supply.timestamp) := by
  rw [carry_bind_ok (carry_newId m), carry_bind_ok (carry_timestamp _), Supply.timestamp_draw]
  exact carry_bind_ok (carry_dispatch (m := { m with supply := m.supply.draw.2 }) hs h) _

theorem carry_append (hs : s.IsCalm) (make : String → String → Message)
    (h : m.store.conversation.refusal? (.append (make m.supply.draw.1 m.supply.timestamp)) = none) :
    m.carry (do
      let id ← newId
      let now ← timestamp
      dispatch s (.append (make id now))) = (.ok (), m.appended s make) := by
  rw [carry_bind_ok (carry_newId m), carry_bind_ok (carry_timestamp _)]
  exact carry_dispatch hs h

section

variable (s : Surroundings σ) (make : String → String → Message) (m : Moderator σ)

@[simp] theorem settings_appended : (m.appended s make).settings = m.settings :=
  settings_dispatched s _ _

@[simp] theorem supply_appended : (m.appended s make).supply = m.supply.draw.2 :=
  supply_dispatched s _ _

@[simp] theorem clock_appended : (m.appended s make).clock = m.clock := clock_dispatched s _ _

@[simp] theorem running_appended : (m.appended s make).running = m.running :=
  running_dispatched s _ _

@[simp] theorem call_appended : (m.appended s make).call = m.call := call_dispatched s _ _

@[simp] theorem lastOutcome_appended : (m.appended s make).lastOutcome = m.lastOutcome :=
  lastOutcome_dispatched s _ _

@[simp] theorem failedStep_appended : (m.appended s make).failedStep = m.failedStep :=
  failedStep_dispatched s _ _

@[simp] theorem waiting_appended : (m.appended s make).waiting = m.waiting :=
  waiting_dispatched s _ _

@[simp] theorem turnInFlight_appended :
    (m.appended s make).store.turnInFlight = m.store.turnInFlight :=
  turnInFlight_dispatched s _ _

@[simp] theorem messages_appended :
    (m.appended s make).messages = m.messages ++ [make m.supply.draw.1 m.supply.timestamp] :=
  messages_dispatched s _ _

theorem document_appended :
    (m.appended s make).document = m.document ∨ s.Asks (.edit (m.appended s make).document) :=
  (document_dispatched s _ _).imp_right And.right

theorem pendingEdit_appended (h : m.store.turnInFlight = false) :
    (m.appended s make).store.pendingEdit = m.store.pendingEdit :=
  pendingEdit_dispatched_of_landed s _ _ h

theorem token_appended :
    (m.appended s make).token = m.token ∨
      m.token = some false ∧ (m.appended s make).token = some true ∧ s.Asks .cancel :=
  token_dispatched s _ _

end

theorem carry_notify (hs : s.IsCalm) (m : Moderator σ) (text : String) :
    m.carry (notify s text) = (.ok (), m.appended s fun id now => .notice id now text) :=
  carry_append hs _ (Conversation.refusal?_append_eq_none nofun)

/-! ## starting a turn -/

/-- the moderator that waits for the reply to a call -/
def waitingFor (c : Call) (m : Moderator σ) : Moderator σ :=
  { m with store := { m.store with turnInFlight := true }, call := some c }

theorem carry_markRunning (m : Moderator σ) :
    m.carry markRunning = (.ok ⟨⟩, { m with token := some false, running := true }) := rfl

theorem carry_beginTurn (s : Surroundings σ) (m : Moderator σ) :
    m.carry (perform s .beginTurn) =
      (.ok (), { m with store := { m.store with turnInFlight := true } }) := rfl

theorem carry_startTurn (s : Surroundings σ) (m : Moderator σ) (task : Task) (voice : Voice)
    (persona : Persona) (messageId document : Value) (prompt : String) :
    ∃ j, m.carry (startTurn s task voice persona messageId (.text prompt) document) =
      if m.isCancelled then (.error .cancelled, m)
      else (.ok (), (m.withJournal j).waitingFor
        { task, voice, persona, messageId, prompt := .text prompt, document, started := m.clock }) := by
  rcases hc : m.isCancelled with _ | _
  · simp only [startTurn, carry_bind, carry_checkToken, hc, Bool.false_eq_true, if_false, carry_live,
      carry_lift, Value.length_text, carry_log, carry_get, carry_beginTurn, carry_modify]
    exact ⟨m.journal ++ [_] ++ [_] ++ [_], rfl⟩
  · exact ⟨[], by simp only [startTurn, carry_bind, carry_checkToken, hc, if_true]⟩

theorem carry_takeTurn (hs : s.IsCalm) (voice : Voice) (p : Progress) {persona : Persona}
    {d : String}
    (hd : (m.appended s fun id now => .placeholder id now persona.sender).document = .text d) :
    ∃ j, m.carry (takeTurn s voice p persona) =
      let m' := m.appended s fun id now => .placeholder id now persona.sender
      if m.isCancelled then (.error .cancelled, m)
      else if m'.isCancelled then (.error .cancelled, m')
      else (.ok (), (m'.withJournal j).waitingFor {
        task := .debate p, voice, persona, messageId := .text m.supply.draw.1
        prompt := .text (Prompt.text {
          systemPrompt := persona.systemPrompt.shown
          personaName := persona.title
          turnCue := persona.turnCue.shown
          history := history m
          userQuery := p.query
          document := d
          agentDriven := m.settings.mode = Mode.agentDriven })
        document := .text d, started := m.clock }) := by
  have hplaced : m.store.conversation.refusal? (.append
      (.placeholder m.supply.draw.1 m.supply.timestamp persona.sender)) = none :=
    Conversation.refusal?_request rfl
  rcases hc : m.isCancelled with _ | _
  · simp only [takeTurn, carry_bind m checkToken, carry_checkToken, hc, Bool.false_eq_true, if_false,
      carry_bind m get, carry_get]
    rw [carry_append_bind hs (fun id now => .placeholder id now persona.sender) hplaced]
    generalize hm' : m.appended s (fun id now => .placeholder id now persona.sender) = m' at hd ⊢
    have hdoc : m'.store.conversation.document = .text d := hd
    have hmode : m'.settings.mode = m.settings.mode := by rw [← hm', settings_appended]
    have hclock : m'.clock = m.clock := by rw [← hm', clock_appended]
    rw [carry_bind_ok (carry_get m'), hdoc, Prompt.notepadText_text, carry_bind_ok (carry_lift _ _),
      hmode, ← hclock]
    exact carry_startTurn ..
  · exact ⟨[], by simp only [takeTurn, carry_bind, carry_checkToken, hc, if_true]⟩

/-! ## ending a turn -/

/-- the moderator after the end of a turn: the edit that was kept back lands -/
def turnEnded (s : Surroundings σ) (m : Moderator σ) : Moderator σ :=
  let m' := { m with store := { m.store with turnInFlight := false, pendingEdit := .null } }
  if m.store.pendingEdit = .null then m' else m'.dispatched s (.setDocument m.store.pendingEdit)

theorem yields_endTurn (s : Surroundings σ) (m : Moderator σ) :
    ∃ x, m.carry (perform s .endTurn) = (x, m.turnEnded s) ∧ s.Yields (.ok ()) x := by
  rw [perform, carry_performWith _ (show m.store.refusal? .endTurn = none from rfl)]
  simp only [Store.perform, turnEnded]
  split
  · exact ⟨.ok (), rfl, .inl rfl⟩
  · exact yields_announce s _

section

variable (s : Surroundings σ) (m : Moderator σ)

theorem sameLog_turnEnded :
    m.store.conversation.SameLog (m.turnEnded s).store.conversation := by
  unfold turnEnded
  split
  · rfl
  · exact sameLog_dispatched s (.setDocument m.store.pendingEdit) _

@[simp] theorem settings_turnEnded : (m.turnEnded s).settings = m.settings := by
  unfold turnEnded; split <;> simp

@[simp] theorem supply_turnEnded : (m.turnEnded s).supply = m.supply := by
  unfold turnEnded; split <;> simp

@[simp] theorem clock_turnEnded : (m.turnEnded s).clock = m.clock := by
  unfold turnEnded; split <;> simp

@[simp] theorem running_turnEnded : (m.turnEnded s).running = m.running := by
  unfold turnEnded; split <;> simp

@[simp] theorem call_turnEnded : (m.turnEnded s).call = m.call := by
  unfold turnEnded; split <;> simp

@[simp] theorem lastOutcome_turnEnded : (m.turnEnded s).lastOutcome = m.lastOutcome := by
  unfold turnEnded; split <;> simp

@[simp] theorem failedStep_turnEnded : (m.turnEnded s).failedStep = m.failedStep := by
  unfold turnEnded; split <;> simp

@[simp] theorem waiting_turnEnded : (m.turnEnded s).waiting = m.waiting := by
  unfold turnEnded; split <;> simp

@[simp] theorem turnInFlight_turnEnded : (m.turnEnded s).store.turnInFlight = false := by
  unfold turnEnded; split <;> simp

@[simp] theorem messages_turnEnded : (m.turnEnded s).messages = m.messages := by
  unfold turnEnded; split <;> simp [Conversation.apply]

theorem pendingEdit_turnEnded : (m.turnEnded s).store.pendingEdit = .null := by
  unfold turnEnded
  split
  · rfl
  · exact pendingEdit_dispatched_of_landed s _ _ rfl

/-- the edit that was kept back wins over the notepad as it is -/
theorem document_turnEnded :
    (m.turnEnded s).document =
        (if m.store.pendingEdit = .null then m.document else m.store.pendingEdit) ∨
      s.Asks (.edit (m.turnEnded s).document) := by
  unfold turnEnded
  split
  · exact .inl rfl
  · exact (document_dispatched s _ _).imp_right And.right

theorem token_turnEnded :
    (m.turnEnded s).token = m.token ∨
      m.token = some false ∧ (m.turnEnded s).token = some true ∧ s.Asks .cancel := by
  unfold turnEnded
  split
  · exact .inl rfl
  · exact token_dispatched s _ _

end

/-! ## the reply -/

/-- remarks are only logged -/
theorem carry_remarks (level : Level) (remarks : List String) (m : Moderator σ) :
    ∃ j, m.carry (forIn remarks PUnit.unit fun remark _ => do
        log level remark
        pure (ForInStep.yield PUnit.unit)) = (.ok ⟨⟩, m.withJournal j) := by
  induction remarks generalizing m with
  | nil => exact ⟨m.journal, rfl⟩
  | cons remark remarks ih =>
    obtain ⟨j, hj⟩ := ih (m.record (.log level remark))
    refine ⟨j, ?_⟩
    rw [List.forIn_cons, carry_bind_ok (carry_bind_ok (carry_log ..) _)]
    exact hj

theorem carry_editedNotepad (c : Call) (edits : List Notepad.Edit) (m : Moderator σ) :
    ∃ j, m.carry (editedNotepad c edits) =
      ((Notepad.edited c.document edits).1, m.withJournal j) := by
  obtain ⟨j, hj⟩ := carry_remarks .warning (Notepad.edited c.document edits).2 m
  rw [editedNotepad, carry_bind_ok hj]
  rcases hd : (Notepad.edited c.document edits).1 with e | d
  · exact ⟨j, carry_bind_error (carry_lift _ _) _⟩
  · rw [carry_bind_ok (carry_lift _ _)]
    rcases he : edits.isEmpty with _ | _
    · exact ⟨j ++ [_], rfl⟩
    · exact ⟨j, rfl⟩

/-- the message of a turn and the notepad, changed in one -/
def resolution (c : Call) (r : Turn.Result) : Action :=
  .resolve c.messageId (.text r.text) (.int r.durationMs) r.document

/-- nothing is changed before everything is made of the reply that can be made of it -/
theorem carry_commit (s : Surroundings σ) (c : Call) (reply : Except Fault Value)
    (m : Moderator σ) :
    ∃ j, m.carry (commit s c reply) =
      match c.ending m.clock m.isCancelled reply with
      | .ok r => (m.withJournal j).carry (do dispatch s (resolution c r); return r)
      | .error e => (.error e, m.withJournal j) := by
  cases reply with
  | error e => exact ⟨m.journal, rfl⟩
  | ok value =>
  cases hc : m.isCancelled with
  | true =>
    refine ⟨m.journal, ?_⟩
    rw [commit, carry_bind_ok (carry_lift _ _), carry_bind_error (by rw [carry_checkToken, hc]; rfl)]
    rfl
  | false =>
  simp only [Call.ending, Bool.false_eq_true, if_false]
  rw [commit, carry_bind_ok (carry_lift _ _), carry_bind_ok (by rw [carry_checkToken, hc]; rfl)]
  cases hraw : Turn.replyText value with
  | error e =>
    refine ⟨m.journal, ?_⟩
    rw [carry_bind_error (carry_lift _ _)]
    simp only [Call.result, hraw, bind, Except.bind]
    rfl
  | ok raw =>
  obtain ⟨j₁, hj₁⟩ := carry_remarks .debug (Notepad.Reply.remarks raw) m
  rw [carry_bind_ok (carry_lift _ _), carry_bind_ok hj₁]
  cases hparsed : Turn.parsed raw with
  | error e =>
    refine ⟨j₁, ?_⟩
    rw [carry_bind_error (carry_lift _ _)]
    simp only [Call.result, hraw, hparsed, bind, Except.bind]
  | ok parsed =>
  obtain ⟨j₂, hj₂⟩ := carry_editedNotepad c parsed.edits (m.withJournal j₁)
  rw [withJournal_withJournal] at hj₂
  refine ⟨j₂, ?_⟩
  rw [carry_bind_ok (carry_lift _ _)]
  cases hd : (Notepad.edited c.document parsed.edits).1 with
  | error e =>
    rw [carry_bind_error (hd ▸ hj₂)]
    simp only [Call.result, hraw, hparsed, hd, bind, Except.bind]
  | ok document =>
  rw [carry_bind_ok (hd ▸ hj₂), carry_bind_ok (carry_get _), clock_withJournal]
  cases ht : Turn.milliseconds c.started m.clock with
  | error e =>
    rw [carry_bind_error (carry_lift _ _)]
    simp only [Call.result, hraw, hparsed, hd, ht, bind, Except.bind]
  | ok took =>
    rw [carry_bind_ok (carry_lift _ _)]
    simp only [Call.result, hraw, hparsed, hd, ht, bind, Except.bind]
    rfl

/-- the moderator that waits for no reply -/
def withoutCall (m : Moderator σ) : Moderator σ := { m with call := none }

/-- the moderator after the reply to a call, up to the end of its turn -/
def committed (s : Surroundings σ) (c : Call) (r : Except Fault Turn.Result) (m : Moderator σ) :
    Moderator σ :=
  turnEnded s <|
    match r with
    | .ok r => dispatched s (resolution c r) m.withoutCall
    | .error _ => m.withoutCall

theorem yields_commit (s : Surroundings σ) (c : Call) (reply : Except Fault Value)
    (m : Moderator σ) :
    ∃ j x, m.carry (commit s c reply) = (x,
        match c.ending m.clock m.isCancelled reply with
        | .ok r => (m.withJournal j).dispatched s (resolution c r)
        | .error _ => m.withJournal j) ∧
      s.Yields (c.ending m.clock m.isCancelled reply) x := by
  obtain ⟨j, hj⟩ := carry_commit s c reply m
  refine ⟨j, ?_⟩
  rw [hj]
  cases c.ending m.clock m.isCancelled reply with
  | error e => exact ⟨.error e, rfl, .inl rfl⟩
  | ok r =>
    obtain ⟨x, hx, hyields⟩ := yields_dispatch s (m := m.withJournal j) (a := resolution c r) rfl
    cases x with
    | ok _ => exact ⟨.ok r, carry_bind_ok hx _, .inl rfl⟩
    | error e =>
      exact ⟨.error e, carry_bind_error hx _, .inr ⟨(hyields.resolve_left nofun).1, e, rfl⟩⟩

/-- the end of a turn, with what became of its reply -/
theorem yields_ended (s : Surroundings σ) (persona : Persona) (r : Except Fault Turn.Result)
    (m : Moderator σ) :
    ∃ j x, m.carry (do
        perform s .endTurn
        let result ← r
        live (finishedText persona result)
        return result) = (x, (m.turnEnded s).withJournal j) ∧ s.Yields r x := by
  obtain ⟨x, hx, hyields⟩ := yields_endTurn s m
  cases x with
  | error e =>
    exact ⟨_, .error e, carry_bind_error hx _, .inr ⟨(hyields.resolve_left nofun).1, e, rfl⟩⟩
  | ok _ =>
    rw [carry_bind_ok hx]
    cases r with
    | error e => exact ⟨_, .error e, carry_bind_error (carry_lift _ _) _, .inl rfl⟩
    | ok result =>
      rw [carry_bind_ok (carry_lift _ _)]
      exact ⟨_, .ok result, carry_bind_ok (carry_live _ _) _, .inl rfl⟩

/-- the moderator after a turn is the same whatever listeners do, but the turn's result is lost when
one of them fails -/
theorem yields_finishTurn (s : Surroundings σ) (c : Call) (reply : Except Fault Value)
    (m : Moderator σ) :
    ∃ j j' x, m.carry (finishTurn s c reply) =
        (x, ((m.withJournal j).committed s c (c.ending m.clock m.isCancelled reply)).withJournal j') ∧
      s.Yields (c.ending m.clock m.isCancelled reply) x := by
  have hstart : m.carry (modify fun m => { m with call := none }) = (.ok (), m.withoutCall) := rfl
  obtain ⟨j, r, hr, hyields⟩ := yields_commit s c reply m.withoutCall
  obtain ⟨j', x, hx, hyields'⟩ :=
    yields_ended s c.persona r (m.withoutCall.carry (commit s c reply)).2
  refine ⟨j, j', x, ?_, hyields.trans hyields'⟩
  rw [finishTurn, carry_bind_ok hstart, carry_attempt_bind (carry_pair _ _), hr]
  rw [hr] at hx
  refine hx.trans (congrArg (fun m' => (x, (turnEnded s m').withJournal j')) ?_)
  have hsame : c.ending m.withoutCall.clock m.withoutCall.isCancelled reply =
    c.ending m.clock m.isCancelled reply := rfl
  rw [hsame]
  cases c.ending m.clock m.isCancelled reply <;> rfl

theorem carry_finishTurn (hs : s.IsCalm) (c : Call) (reply : Except Fault Value)
    (m : Moderator σ) :
    ∃ j j', m.carry (finishTurn s c reply) =
      let r := c.ending m.clock m.isCancelled reply
      (r, ((m.withJournal j).committed s c r).withJournal j') := by
  obtain ⟨j, j', x, hx, hyields⟩ := yields_finishTurn s c reply m
  rw [hs.eq_of_yields hyields] at hx
  exact ⟨j, j', hx⟩

section

variable (s : Surroundings σ) (c : Call) (r : Except Fault Turn.Result) (m : Moderator σ)

@[simp] theorem settings_committed : (m.committed s c r).settings = m.settings := by
  cases r <;> simp [committed, withoutCall]

@[simp] theorem supply_committed : (m.committed s c r).supply = m.supply := by
  cases r <;> simp [committed, withoutCall]

@[simp] theorem clock_committed : (m.committed s c r).clock = m.clock := by
  cases r <;> simp [committed, withoutCall]

@[simp] theorem running_committed : (m.committed s c r).running = m.running := by
  cases r <;> simp [committed, withoutCall]

@[simp] theorem call_committed : (m.committed s c r).call = none := by
  cases r <;> simp [committed, withoutCall]

@[simp] theorem lastOutcome_committed : (m.committed s c r).lastOutcome = m.lastOutcome := by
  cases r <;> simp [committed, withoutCall]

@[simp] theorem failedStep_committed : (m.committed s c r).failedStep = m.failedStep := by
  cases r <;> simp [committed, withoutCall]

@[simp] theorem waiting_committed : (m.committed s c r).waiting = m.waiting := by
  cases r <;> simp [committed, withoutCall]

@[simp] theorem turnInFlight_committed : (m.committed s c r).store.turnInFlight = false := by
  cases r <;> simp [committed, withoutCall]

theorem messages_committed :
    (m.committed s c r).messages =
      match r with
      | .ok r => (m.store.conversation.apply (resolution c r)).messages
      | .error _ => m.messages := by
  cases r <;> simp [committed, withoutCall]

theorem pendingEdit_committed : (m.committed s c r).store.pendingEdit = .null :=
  pendingEdit_turnEnded s _

theorem token_committed :
    (m.committed s c r).token = m.token ∨
      m.token = some false ∧ (m.committed s c r).token = some true ∧ s.Asks .cancel := by
  cases r with
  | error e => exact token_turnEnded s m.withoutCall
  | ok r =>
    rcases token_turnEnded s (dispatched s (resolution c r) m.withoutCall) with h | ⟨h, h'⟩
    · rw [show (m.committed s c (.ok r)).token = _ from h]
      exact token_dispatched s _ m.withoutCall
    · rcases token_dispatched s (resolution c r) m.withoutCall with ht | ⟨-, ht, -⟩
      · exact .inr ⟨ht ▸ h, h'⟩
      · rw [ht] at h
        cases h

/-- the notepad after a turn: the edit that was kept back, otherwise what the turn made of it,
unless a listener edits it or takes back the edit that was kept -/
theorem document_committed_or :
    (m.committed s c r).document =
        (if m.store.pendingEdit = .null then Turn.made m.document r else m.store.pendingEdit) ∨
      s.Asks (.edit (m.committed s c r).document) ∨ s.Asks (.edit .null) := by
  cases r with
  | error e => exact (document_turnEnded s m.withoutCall).imp_right .inl
  | ok r =>
    generalize hd : dispatched s (resolution c r) m.withoutCall = d
    have hfinal : (m.committed s c (.ok r)).document = (d.turnEnded s).document := by
      rw [← hd]
      rfl
    have hpend := hd ▸ pendingEdit_dispatched s (resolution c r) m.withoutCall
    have hdoc := hd ▸ document_dispatched s (resolution c r) m.withoutCall
    rw [hfinal]
    rcases (document_turnEnded s d).symm with h | h
    · exact .inr (.inl h)
    rcases hpend with hp | ⟨-, hp⟩
    · rw [h, hp]
      by_cases hnull : m.store.pendingEdit = .null
      · rw [if_pos hnull, if_pos (show m.withoutCall.store.pendingEdit = .null from hnull)]
        exact hdoc.imp_right fun hasked => .inl hasked.2
      · rw [if_neg hnull, if_neg (show ¬ m.withoutCall.store.pendingEdit = .null from hnull)]
        exact .inl rfl
    · by_cases hnull : d.store.pendingEdit = .null
      · exact .inr (.inr (hnull ▸ hp))
      · rw [if_neg hnull] at h
        exact .inr (.inl (h ▸ hp))

theorem document_committed (hs : s.IsCalm) :
    (m.committed s c r).document =
        (if m.store.pendingEdit = .null then Turn.made m.document r else m.store.pendingEdit) ∨
      s.Asks (.edit (m.committed s c r).document) := by
  rcases document_committed_or s c r m with h | h | hnull
  · exact .inl h
  · exact .inr h
  · obtain ⟨t, ht⟩ := hs.editsText _ hnull
    cases ht

end

/-! ## failures and the end of a run -/

/-- the wording of a failure in the log: its own, if it has one -/
def failureText (e : Fault) : String := if e.message.isEmpty then unknownError else e.message

theorem yields_reportFailure (s : Surroundings σ) (persona : Persona) (messageId : Value) (e : Fault)
    (m : Moderator σ) :
    ∃ j x, m.carry (reportFailure s persona messageId e) =
        (x, (m.withJournal j).dispatched s (.fail messageId (failureText e))) ∧
      s.Yields (.ok ()) x := by
  have logged (level : Level) (text : String) :
      ∃ j x, m.carry (do
          log level text
          live ("ERROR (" ++ persona.title ++ "): " ++ e.message)
          dispatch s (.fail messageId (failureText e))) =
        (x, (m.withJournal j).dispatched s (.fail messageId (failureText e))) ∧
      s.Yields (.ok ()) x := by
    refine ⟨m.journal ++ [.log level text] ++
      [.liveAt m.supply.now ("ERROR (" ++ persona.title ++ "): " ++ e.message)], ?_⟩
    rw [carry_bind_ok (carry_log ..), carry_bind_ok (carry_live ..)]
    exact yields_dispatch s rfl
  cases e <;> exact logged _ _

theorem carry_reportFailure (hs : s.IsCalm) (persona : Persona) (messageId : Value) (e : Fault)
    (m : Moderator σ) :
    ∃ j, m.carry (reportFailure s persona messageId e) =
      (.ok (), (m.withJournal j).dispatched s (.fail messageId (failureText e))) := by
  obtain ⟨j, x, hx, hyields⟩ := yields_reportFailure s persona messageId e m
  rw [hs.eq_of_yields hyields] at hx
  exact ⟨j, hx⟩

/-- the moderator after a run, before it says so -/
def cleared (s : Surroundings σ) (outcome : Outcome) (m : Moderator σ) : Moderator σ :=
  let m' := m.dispatched s .dropPending
  if outcome = .cancelled then m'.appended s fun id now => .notice id now cancelledNotice else m'

/-- the moderator that is idle after a run; whoever waits for that is woken -/
def closed (outcome : Outcome) (m : Moderator σ) : Moderator σ :=
  { m with
    lastOutcome := some outcome
    token := none
    running := false
    waiting := m.waiting.map fun w => { w with woken := true } }

/-- the moderator after a run -/
def settled (s : Surroundings σ) (outcome : Outcome) (m : Moderator σ) : Moderator σ :=
  closed outcome (m.cleared s outcome)

theorem carry_finish (hs : s.IsCalm) (outcome : Outcome) (m : Moderator σ) :
    ∃ j, m.carry (finish s outcome) = (.ok (), (m.settled s outcome).withJournal j) := by
  have hdrop : m.carry (dispatch s .dropPending) = (.ok (), m.dispatched s .dropPending) :=
    carry_dispatch hs rfl
  have hclose (m' : Moderator σ) : ∃ j,
      m'.carry (do
        log .info ("Discussion settled: " ++ outcome.name)
        live ("SETTLED: " ++ outcome.name)
        modify (closed outcome)) = (.ok (), (m'.closed outcome).withJournal j) := by
    rw [carry_bind_ok (carry_log ..), carry_bind_ok (carry_live ..)]
    exact ⟨_, rfl⟩
  rw [finish, carry_bind_ok hdrop]
  by_cases ho : outcome = .cancelled
  · rw [if_pos ho, carry_bind_ok (carry_notify hs _ _), settled, cleared, if_pos ho]
    exact hclose _
  · rw [if_neg ho, settled, cleared, if_neg ho]
    exact hclose _

section

variable (s : Surroundings σ) (outcome : Outcome) (m : Moderator σ)

@[simp] theorem settings_settled : (m.settled s outcome).settings = m.settings := by
  simp only [settled, closed, cleared]
  split <;> simp

@[simp] theorem running_settled : (m.settled s outcome).running = false := rfl

@[simp] theorem token_settled : (m.settled s outcome).token = none := rfl

@[simp] theorem lastOutcome_settled : (m.settled s outcome).lastOutcome = some outcome := rfl

@[simp] theorem call_settled : (m.settled s outcome).call = m.call := by
  simp only [settled, closed, cleared]
  split <;> simp

@[simp] theorem failedStep_settled : (m.settled s outcome).failedStep = m.failedStep := by
  simp only [settled, closed, cleared]
  split <;> simp

@[simp] theorem turnInFlight_settled :
    (m.settled s outcome).store.turnInFlight = m.store.turnInFlight := by
  simp only [settled, closed, cleared]
  split <;> simp

theorem messages_settled :
    (m.settled s outcome).messages =
      m.store.conversation.settled ++
        if outcome = .cancelled then
          [.notice m.supply.draw.1 m.supply.timestamp cancelledNotice] else [] := by
  change (m.cleared s outcome).messages = _
  unfold cleared
  split <;> simp [Conversation.apply]

theorem document_settled :
    (m.settled s outcome).document = m.document ∨
      s.Asks (.edit (m.settled s outcome).document) := by
  have hdrop := (document_dispatched s .dropPending m).imp_right And.right
  simp only [settled, closed, cleared]
  split
  · rcases document_appended s (fun id now => .notice id now cancelledNotice)
      (m.dispatched s .dropPending) with h | h
    · rw [h]
      exact hdrop
    · exact .inr h
  · exact hdrop

theorem pendingEdit_settled (h : m.store.turnInFlight = false) :
    (m.settled s outcome).store.pendingEdit = m.store.pendingEdit := by
  have hdrop := pendingEdit_dispatched_of_landed s .dropPending m h
  simp only [settled, closed, cleared]
  split
  · rw [pendingEdit_appended _ _ _ (by rw [turnInFlight_dispatched, h]), hdrop]
  · exact hdrop

end

/-- no run is under way, and nothing is left of one -/
structure IsIdle (m : Moderator σ) : Prop where
  running : m.running = false
  token : m.token = none
  call : m.call = none
  inFlight : m.store.turnInFlight = false
  pendingEdit : m.store.pendingEdit = .null

theorem isIdle_settled (s : Surroundings σ) (outcome : Outcome) (hcall : m.call = none)
    (hflight : m.store.turnInFlight = false) (hedit : m.store.pendingEdit = .null) :
    (m.settled s outcome).IsIdle where
  running := rfl
  token := rfl
  call := (call_settled s outcome m).trans hcall
  inFlight := (turnInFlight_settled s outcome m).trans hflight
  pendingEdit := (pendingEdit_settled s outcome m hflight).trans hedit

end Moderator

end Debate
