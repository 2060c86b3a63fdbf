import Debate.Proofs.Attaching

/-!
# Turns that fail

A turn puts its result into the conversation in one change, and that is the last thing that can go
wrong: before it, nothing is changed. But the change is made before the listeners are shown it. If
one of them fails then, the turn fails although its message has got its text and the notepad its
edits.

* `Event.isMeanwhile`          what may happen while a turn waits for its reply;
* `Moderator.beside_after`     it changes nothing, and the last edit is kept back;
* `Moderator.turn`             a turn, from its start to its end, and what happens meanwhile;
* `Moderator.turnEnding`       what the turn makes of its reply;
* `Moderator.Withdrawn`        the turn changed nothing;
* `Moderator.Placed`           the turn put its result into the conversation;
* `Moderator.turn_ends`        it does the one or the other, whatever the listeners do;
* `Moderator.turn_raises`      what a turn that fails leaves.
-/

namespace Debate

open Debate.Number

variable {σ : Type}

/-- what may happen while a turn waits for its reply: its run is cancelled, the notepad is edited,
and so on; if a run is under way, whatever may come beside it -/
def Event.isMeanwhile (running : Bool) : Event → Bool
  | .told (.edit _) | .told .cancel | .told .look | .passed _ _ => true
  | e => running && e.isBeside

namespace Moderator

variable {m m' : Moderator σ} {c : Call} {r : Turn.Result}

/-! ## meanwhile -/

theorem beside_meanwhile (s : Surroundings σ) (hflight : m.store.turnInFlight = true) {e : Event}
    (he : e.isMeanwhile m.running = true) :
    Beside m (m.step s e) ∧ (m.step s e).store.pendingEdit = e.edit?.getD m.store.pendingEdit := by
  have hrun (h : (m.running && e.isBeside) = true) := Bool.and_eq_true_iff.mp h
  cases e with
  | replied _ => exact absurd (hrun he).2 Bool.false_ne_true
  | attached => exact absurd (hrun he).2 Bool.false_ne_true
  | passed now clock => exact ⟨⟨rfl, rfl, rfl, Nat.le_refl _, .inl rfl⟩, rfl⟩
  | told command =>
    cases command with
    | edit content =>
      rw [step, obey, snd_carry_map _ _ _ fun _ _ => rfl]
      exact beside_edit hflight _ content
    | cancel =>
      rw [step, obey, snd_carry_map _ _ _ fun _ _ => rfl]
      refine ⟨beside_cancel m, ?_⟩
      rw [carry_cancel]
      split <;> rfl
    | look => exact ⟨Beside.refl m, rfl⟩
    | submit _ _ | retry | switch _ | startNew _ | restore _ | load _ | configure _ _ =>
      exact beside_step s (hrun he).1 hflight (hrun he).2

/-- of several edits the last one is kept back -/
theorem beside_after (s : Surroundings σ) (hflight : m.store.turnInFlight = true) {es : List Event}
    (hes : ∀ e ∈ es, e.isMeanwhile m.running = true) :
    Beside m (m.after s es) ∧
      (m.after s es).store.pendingEdit = (lastEdit es).getD m.store.pendingEdit := by
  induction es generalizing m with
  | nil => exact ⟨Beside.refl m, rfl⟩
  | cons e es ih =>
    obtain ⟨hstep, hedit⟩ := beside_meanwhile s hflight (hes e List.mem_cons_self)
    obtain ⟨hrest, hedits⟩ := ih (hstep.turnInFlight.trans hflight) fun x hx => by
      rw [hstep.running]
      exact hes x (List.mem_cons_of_mem e hx)
    refine ⟨hstep.trans hrest, ?_⟩
    rw [show m.after s (e :: es) = (m.step s e).after s es from rfl, hedits, hedit, lastEdit_cons]
    cases lastEdit es <;> rfl

/-! ## a turn -/

/-- a turn that starts, for the persona, message, prompt and notepad of a call -/
def starting (s : Surroundings σ) (c : Call) : Moderating σ Unit :=
  startTurn s c.task c.voice c.persona c.messageId c.prompt c.document

/-- a turn starts by waiting for its reply, or it fails and leaves the store alone -/
theorem carry_starting (s : Surroundings σ) (c : Call) (m : Moderator σ) :
    ∃ j, (∃ e, m.carry (starting s c) = (.error e, m.withJournal j)) ∨
      m.carry (starting s c) =
        (.ok (), (m.withJournal j).waitingFor { c with started := m.clock }) := by
  cases hcancelled : m.isCancelled with
  | true =>
    refine ⟨m.journal, .inl ⟨.cancelled, ?_⟩⟩
    simp only [starting, startTurn, carry_bind, carry_checkToken, hcancelled, if_true]
    rfl
  | false =>
    simp only [starting, startTurn, carry_bind, carry_checkToken, hcancelled, Bool.false_eq_true,
      if_false, carry_live, carry_lift, carry_log, carry_get, carry_beginTurn, carry_modify]
    cases c.prompt.length with
    | error e => exact ⟨m.journal ++ [_], .inl ⟨e, rfl⟩⟩
    | ok n => exact ⟨m.journal ++ [_] ++ [_] ++ [_], .inr rfl⟩

/-- the moderator when the reply to a turn arrives -/
def awaiting (s : Surroundings σ) (c : Call) (meanwhile : List Event) (m : Moderator σ) :
    Moderator σ :=
  (m.carry (starting s c)).2.after s meanwhile

/-- a turn: it starts, it waits while other things happen, and its reply arrives -/
def turn (s : Surroundings σ) (c : Call) (meanwhile : List Event) (reply : Except Fault Value)
    (m : Moderator σ) : Except Fault Turn.Result × Moderator σ :=
  match m.carry (starting s c) with
  | (.error e, m') => (.error e, m')
  | (.ok _, _) =>
    (m.awaiting s c meanwhile).carry (finishTurn s { c with started := m.clock } reply)

/-- what a turn makes of its reply, if it starts -/
def turnEnding (s : Surroundings σ) (c : Call) (meanwhile : List Event) (reply : Except Fault Value)
    (m : Moderator σ) : Except Fault Turn.Result :=
  let m' := m.awaiting s c meanwhile
  Call.ending { c with started := m.clock } m'.clock m'.isCancelled reply

/-- the edit that is kept back when the reply to a turn arrives, null for none -/
def keptBack (meanwhile : List Event) (m : Moderator σ) : Value :=
  (lastEdit meanwhile).getD m.store.pendingEdit

/-- a message that got the result of its turn does not hold the place of the turn any more -/
theorem resolved_of_mem {conversation : Conversation} {x : Message}
    (hx : x ∈ (conversation.apply (resolution c r)).messages) (hid : x.hasId c.messageId = true) :
    x.text = .text r.text ∧ x.durationMs = .int r.durationMs ∧ x.pending = false := by
  obtain ⟨y, -, rfl⟩ := List.mem_map.mp hx
  split at hid
  · rename_i hy
    rw [if_pos hy]
    exact ⟨rfl, rfl, rfl⟩
  · rename_i hy
    exact absurd hid hy

/-- a turn changed nothing: the log is as it was, and the notepad as it was or as it was edited
meanwhile -/
structure Withdrawn (s : Surroundings σ) (edit : Value) (m m' : Moderator σ) : Prop where
  inFlight : m'.store.turnInFlight = false
  messages : m'.messages = m.messages
  document : m'.document = (if edit = .null then m.document else edit) ∨
    edit ≠ .null ∧ s.Asks (.edit m'.document)

/-- a turn put its result into the conversation: its message is no placeholder any more, and the
notepad is as the turn made it or as it was edited meanwhile -/
structure Placed (s : Surroundings σ) (c : Call) (r : Turn.Result) (edit : Value)
    (m m' : Moderator σ) : Prop where
  inFlight : m'.store.turnInFlight = false
  messages : m'.messages = (m.store.conversation.apply (resolution c r)).messages
  resolved : ∀ x ∈ m'.messages, x.hasId c.messageId = true →
    x.text = .text r.text ∧ x.durationMs = .int r.durationMs ∧ x.pending = false
  document : m'.document = (if edit = .null then r.document else edit) ∨
    s.Asks (.edit m'.document) ∨ s.Asks (.edit .null)

section

variable {s : Surroundings σ} {edit : Value} {m₁ : Moderator σ}

theorem withdrawn_committed
    (h : m₁.store = { m.store with turnInFlight := true, pendingEdit := edit }) (c : Call)
    (e : Fault) : Withdrawn s edit m (m₁.committed s c (.error e)) where
  inFlight := turnInFlight_committed s c (.error e) m₁
  messages := by
    rw [messages_committed]
    exact congrArg (fun x => x.conversation.messages) h
  document := by
    have hkept : m₁.withoutCall.store.pendingEdit = edit := congrArg Store.pendingEdit h
    have hfound : m₁.withoutCall.document = m.document :=
      congrArg (fun x => x.conversation.document) h
    by_cases hnull : edit = .null
    · -- nobody is shown anything
      have hended : m₁.committed s c (.error e) = { m₁.withoutCall with
          store := { m₁.store with turnInFlight := false, pendingEdit := .null } } :=
        if_pos (hkept.trans hnull)
      rw [if_pos hnull, hended]
      exact .inl hfound
    · have hdocument := document_turnEnded s m₁.withoutCall
      rw [hkept, hfound] at hdocument
      exact hdocument.imp_right fun hasked => ⟨hnull, hasked⟩

theorem placed_committed
    (h : m₁.store = { m.store with turnInFlight := true, pendingEdit := edit }) (c : Call)
    (r : Turn.Result) : Placed s c r edit m (m₁.committed s c (.ok r)) := by
  have hmessages : (m₁.committed s c (.ok r)).messages =
      (m.store.conversation.apply (resolution c r)).messages := by
    rw [messages_committed, h]
  constructor
  · exact turnInFlight_committed s c (.ok r) m₁
  · exact hmessages
  · intro x hx
    rw [hmessages] at hx
    exact resolved_of_mem hx
  · have hdocument := document_committed_or s c (.ok r) m₁
    rw [h] at hdocument
    exact hdocument

/-- the store when the reply to a turn arrives, and what is left of the turn then -/
theorem awaiting_of_starts {meanwhile : List Event}
    (hmeanwhile : ∀ x ∈ meanwhile, x.isMeanwhile m.running = true) (reply : Except Fault Value)
    (hstarts : (m.carry (starting s c)).1 = .ok ()) :
    m.turn s c meanwhile reply =
        (m.awaiting s c meanwhile).carry (finishTurn s { c with started := m.clock } reply) ∧
      (m.awaiting s c meanwhile).store =
        { m.store with turnInFlight := true, pendingEdit := m.keptBack meanwhile } := by
  obtain ⟨j, ⟨e, he⟩ | hstart⟩ := carry_starting s c m
  · rw [he] at hstarts
    cases hstarts
  obtain ⟨hbeside, hedit⟩ :=
    beside_after s (m := (m.withJournal j).waitingFor { c with started := m.clock }) rfl hmeanwhile
  refine ⟨by rw [turn, hstart], ?_⟩
  rw [awaiting, hstart]
  exact hbeside.store.trans (by rw [hedit]; rfl)

/-- whatever its result, a turn that starts changes nothing if nothing can be made of its reply, and
otherwise puts its result into the conversation; the result is lost only when a listener fails -/
theorem turn_ends {meanwhile : List Event}
    (hmeanwhile : ∀ x ∈ meanwhile, x.isMeanwhile m.running = true) (reply : Except Fault Value)
    (hstarts : (m.carry (starting s c)).1 = .ok ()) :
    s.Yields (m.turnEnding s c meanwhile reply) (m.turn s c meanwhile reply).1 ∧
      match m.turnEnding s c meanwhile reply with
      | .error _ => Withdrawn s (m.keptBack meanwhile) m (m.turn s c meanwhile reply).2
      | .ok r => Placed s c r (m.keptBack meanwhile) m (m.turn s c meanwhile reply).2 := by
  obtain ⟨hturn, hstore⟩ := awaiting_of_starts hmeanwhile reply hstarts
  obtain ⟨j, j', x, hfinish, hyields⟩ :=
    yields_finishTurn s { c with started := m.clock } reply (m.awaiting s c meanwhile)
  rw [hturn, hfinish]
  refine ⟨hyields, ?_⟩
  have hstore' : ((m.awaiting s c meanwhile).withJournal j).store = _ := hstore
  rw [turnEnding]
  cases Call.ending { c with started := m.clock } (m.awaiting s c meanwhile).clock
      (m.awaiting s c meanwhile).isCancelled reply with
  | error e =>
    obtain ⟨hflight, hmessages, hdocument⟩ :=
      withdrawn_committed (s := s) hstore' { c with started := m.clock } e
    exact ⟨hflight, hmessages, hdocument⟩
  | ok r =>
    obtain ⟨hflight, hmessages, hresolved, hdocument⟩ :=
      placed_committed (s := s) hstore' { c with started := m.clock } r
    exact ⟨hflight, hmessages, hresolved, hdocument⟩

end

/-- what is left of a turn that fails. If it does not even start, the store is as it was; if nothing
can be made of its reply, nothing is changed. Otherwise a listener failed after the result was put
into the conversation, and there it stays. Either way the notepad stays as it is when the failure is
recorded -/
theorem turn_raises {s : Surroundings σ} {meanwhile : List Event} {reply : Except Fault Value}
    {e : Fault} (hmeanwhile : ∀ x ∈ meanwhile, x.isMeanwhile m.running = true)
    (h : m.turn s c meanwhile reply = (.error e, m')) :
    (match (m.carry (starting s c)).1, m.turnEnding s c meanwhile reply with
      | .error _, _ => m'.store = m.store
      | .ok _, .error _ => Withdrawn s (m.keptBack meanwhile) m m'
      | .ok _, .ok r => s.Fails ∧ Placed s c r (m.keptBack meanwhile) m m') ∧
    let recorded := (m'.carry (reportFailure s c.persona c.messageId e)).2
    recorded.document = m'.document ∨ s.Asks (.edit recorded.document) := by
  constructor
  · cases hstarts : (m.carry (starting s c)).1 with
    | error e' =>
      obtain ⟨j, ⟨e', he⟩ | hstart⟩ := carry_starting s c m
      · rw [turn, he] at h
        cases h
        rfl
      · rw [hstart] at hstarts
        cases hstarts
    | ok _ =>
      obtain ⟨hyields, hleft⟩ := turn_ends hmeanwhile reply hstarts
      rw [h] at hyields hleft
      cases hending : m.turnEnding s c meanwhile reply with
      | error e' =>
        rw [hending] at hleft
        exact hleft
      | ok r =>
        rw [hending] at hyields hleft
        exact ⟨(hyields.resolve_left nofun).1, hleft⟩
  · obtain ⟨j, x, hreport, -⟩ := yields_reportFailure s c.persona c.messageId e m'
    rw [hreport]
    exact (document_dispatched s _ _).imp_right And.right

/-- a log with a message for the first turn of a debate -/
def prepared : Moderator Unit := { opened with
  store := { conversation := { opened.store.conversation with
    messages := [Message.placeholder "i" "" .agentA] } } }

/-- the first turn of a debate, on an empty notepad -/
def firstCall : Call where
  task := .debate {
    query := "Go", iteration := 1, iterations := 1, limit := "1", agentDriven := false
    position := .first }
  voice := .given "model"
  persona := opened.settings.agentA
  messageId := .text "i"
  prompt := .text "Go"
  document := .text ""
  started := Double.zero

/-- the first turn of a debate, with what happens meanwhile and the reply -/
def firstTurn (meanwhile : List Event) (reply : Except Fault Value) :
    Except Fault Turn.Result × Moderator Unit :=
  prepared.turn .silent firstCall meanwhile reply

/-- an edit that comes in during a turn lands when the turn fails -/
theorem turn_raises_edited :
    let meanwhile := [Event.told (.edit (.text "mine"))]
    let reply := Except.error (Fault.provider "down")
    (∀ x ∈ meanwhile, x.isMeanwhile prepared.running = true) ∧
      (firstTurn meanwhile reply).1 = .error (.provider "down") ∧
      Withdrawn .silent (.text "mine") prepared (firstTurn meanwhile reply).2 := by
  intro meanwhile reply
  have hmeanwhile : ∀ x ∈ meanwhile, x.isMeanwhile prepared.running = true := by
    intro x hx
    rw [List.mem_singleton.mp hx]
    rfl
  have hresult : (firstTurn meanwhile reply).1 = .error (.provider "down") := rfl
  exact ⟨hmeanwhile, hresult, (turn_raises hmeanwhile (Prod.ext hresult rfl)).1⟩

/-- somebody who fails when a conversation is shown for the third time -/
def thirdTimeUnlucky : Surroundings Nat where
  hear _ _ n := {
    audience := n + 1
    fault := if n = 2 then some (.unsupported "disk full") else none }
  voice := some "model"

/-- an empty conversation that is going to be shown to somebody -/
def shownTo : Moderator Nat where
  settings := opened.settings
  store := opened.store
  audience := 0
  supply := opened.supply

/-- a turn fails while its result is shown, and is put on record as failed; its edit stays, and is
made once more when the turn is retried -/
theorem edited_twice :
    let reply := Event.replied (.ok (.text "Hi <np-append>x</np-append>"))
    let failed := shownTo.after thirdTimeUnlucky [.told (.submit (.text "Go") .null), reply]
    let retried := failed.after thirdTimeUnlucky [.told .retry, reply]
    failed.lastOutcome = some .failed ∧
      failed.failedStep.map (·.messageId) = some (.text "i") ∧
      failed.document = .text "x" ∧
      retried.lastOutcome = some .complete ∧ retried.document = .text "x\nx" := by
  decide +kernel

end Moderator

end Debate
