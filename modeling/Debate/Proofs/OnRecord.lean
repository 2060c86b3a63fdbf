import Debate.Proofs.Abreast

/-!
# Debates on record

A debate is followed here by a writer that only remembers. Whatever it is shown it keeps up with: after
every event of a run it is abreast of the conversation, the conversation can be saved, and the message
of the failed step, if there is one, is among what is settled.

* `Surroundings.Remembers`     nobody listens but a writer that remembers;
* `Moderator.IsRecorded`       a moderator whose conversation a writer is abreast of, and that can be saved;
* `Moderator.IsInOrder`        the same for one that is idle, with nothing pending;
* `Moderator.IsBetween`, `Moderator.IsAsking`   the same within a debate: between two turns, and in one;
* `Moderator.IsAsking.step`    an event of a run;
* `Moderator.IsInOrder.run`    a whole run leaves a moderator that is in order again.
-/

namespace Debate

open Debate.Transcript

variable {σ σ' : Type}

/-! ## times -/

theorem Supply.timestamp_ne_empty (u : Supply) : u.timestamp ≠ "" := by
  intro h
  have hparts := congrArg String.toList h
  simp [timestamp, Instant.iso, String.toList_append] at hparts

namespace Message

theorem isRecord_of_texts {x : Message} {id text timestamp : String} (hid : id ≠ "")
    (htimestamp : timestamp ≠ "") (hid' : x.id = .text id) (htext : x.text = .text text)
    (htime : x.timestamp = .text timestamp) (hduration : x.durationMs = .null)
    (himage : x.image = .null ∨ x.image.IsGiven) : x.IsRecord :=
  ⟨⟨id, hid, hid'⟩, ⟨text, htext⟩, ⟨timestamp, htimestamp, htime⟩, .inl hduration, himage⟩

end Message

/-! ## a writer that remembers -/

/-- nobody listens but a writer, of whom only what it remembers counts -/
def Surroundings.Remembers (s : Surroundings Writer) : Prop :=
  ∀ now c w, s.hear now c w = { audience := w.heard c }

namespace Moderator

variable {s : Surroundings Writer} {m m' : Moderator Writer} {w : Writer}

/-! ## what is on record -/

/-- a moderator whose conversation a writer is abreast of, and that can be saved; the message of its
failed step is among what is settled -/
structure IsRecorded (w : Writer) (m : Moderator σ) : Prop where
  given : ∀ k, m.supply.idOf k ≠ ""
  log : m.store.conversation.IsKeepable m.supply
  writer : Abreast w m.store.conversation
  failedStep : ∀ f ∈ m.failedStep,
    (∃ x ∈ m.store.conversation.settled, x.id = f.messageId) ∧ ∃ t, f.prompt = .text t

/-- such a moderator that is idle, with nothing pending -/
structure IsInOrder (w : Writer) (m : Moderator σ) : Prop extends m.IsRecorded w where
  idle : m.IsIdle
  settled : AllSettled m.messages

/-- such a moderator between two turns -/
structure IsBetween (m : Moderator Writer) : Prop extends m.IsRecorded m.audience where
  call : m.call = none
  inFlight : m.store.turnInFlight = false
  pendingEdit : m.store.pendingEdit = .null

/-- such a moderator that waits for a reply in a debate; no turn of it has failed -/
structure IsAsking (c : Call) (m : Moderator Writer) : Prop extends m.IsRecorded m.audience where
  running : m.running = true
  call : m.call = some c
  inFlight : m.store.turnInFlight = true
  pendingEdit : m.store.pendingEdit = .null ∨ ∃ t, m.store.pendingEdit = .text t
  debate : ∃ p, c.task = .debate p
  held : ∃ x ∈ m.messages, x.id = c.messageId
  prompt : ∃ t, c.prompt = .text t
  document : ∃ d, c.document = .text d
  noStep : m.failedStep = none

end Moderator

namespace Surroundings.Remembers

open Moderator

variable {s : Surroundings Writer}

theorem isCalm (hs : s.Remembers) : s.IsCalm where
  noFault now c w := by rw [hs]
  editsText content := by
    rintro ⟨now, c, w, h⟩
    rw [hs] at h
    cases h

theorem isQuiet (hs : s.Remembers) : s.IsQuiet fun _ => True := fun now c w => by
  rw [hs]
  exact ⟨rfl, rfl, fun _ => ⟨trivial, rfl⟩⟩

/-- a change of the conversation: the writer is shown it, and that is all -/
theorem dispatched_eq (hs : s.Remembers) (a : Action) (m : Moderator Writer) :
    m.dispatched s a = { m with
      store := m.store.dispatch a
      audience := m.audience.heard (m.store.conversation.apply a)
      shown := m.shown + 1
      journal := m.journal ++ [] } := by
  rw [dispatched, heeded, carry_announce_quiet hs.isQuiet, presented, hs, carry_raise]
  rfl

end Surroundings.Remembers

namespace Moderator

variable {s : Surroundings Writer} {m m' : Moderator Writer} {w : Writer}

namespace IsRecorded

theorem withJournal {m : Moderator σ} (h : m.IsRecorded w) (j : List Entry) :
    (m.withJournal j).IsRecorded w := ⟨h.given, h.log, h.writer, h.failedStep⟩

/-- a change of the conversation in which what is settled stays settled -/
theorem shown (hs : s.Remembers) (h : m.IsRecorded m.audience) {a : Action} {u : Supply}
    (hid : u.idOf = m.supply.idOf) (hlog : (m.store.conversation.apply a).IsKeepable u)
    (hkeeps : m.store.conversation.Keeps (m.store.conversation.apply a)) :
    ({ m with supply := u }.dispatched s a).IsRecorded
      ({ m with supply := u }.dispatched s a).audience := by
  rw [hs.dispatched_eq]
  refine ⟨hid ▸ h.given, hlog, h.writer.heard hlog hkeeps, fun f hf => ?_⟩
  obtain ⟨⟨x, hx, hxid⟩, hprompt⟩ := h.failedStep f hf
  obtain ⟨y, hy, hyid⟩ := hkeeps x hx
  exact ⟨⟨y, hy, hyid.trans hxid⟩, hprompt⟩

theorem dispatched (hs : s.Remembers) (h : m.IsRecorded m.audience) {a : Action}
    (ha : a.IsSettling) : (m.dispatched s a).IsRecorded (m.dispatched s a).audience :=
  h.shown hs rfl (h.log.apply ha) (ha.keeps _)

theorem appended (hs : s.Remembers) (h : m.IsRecorded m.audience)
    {make : String → String → Message} (hmake : ∀ id now, id ≠ "" → now ≠ "" →
      (make id now).id = .text id ∧ (make id now).IsRecord) :
    (m.appended s make).IsRecorded (m.appended s make).audience := by
  obtain ⟨hid, hrecord⟩ := hmake m.supply.draw.1 m.supply.timestamp (h.given _)
    m.supply.timestamp_ne_empty
  exact h.shown hs rfl (h.log.append hrecord hid) (Conversation.keeps_append _ _)

end IsRecorded

/-! ## within a debate -/

namespace IsBetween

theorem withJournal (h : m.IsBetween) (j : List Entry) : (m.withJournal j).IsBetween :=
  ⟨h.toIsRecorded.withJournal j, h.call, h.inFlight, h.pendingEdit⟩

theorem dispatched (hs : s.Remembers) (h : m.IsBetween) {a : Action} (ha : a.IsSettling) :
    (m.dispatched s a).IsBetween where
  toIsRecorded := h.toIsRecorded.dispatched hs ha
  call := (call_dispatched s a m).trans h.call
  inFlight := (turnInFlight_dispatched s a m).trans h.inFlight
  pendingEdit := (pendingEdit_dispatched_of_landed s a m h.inFlight).trans h.pendingEdit

theorem appended (hs : s.Remembers) (h : m.IsBetween) {make : String → String → Message}
    (hmake : ∀ id now, id ≠ "" → now ≠ "" →
      (make id now).id = .text id ∧ (make id now).IsRecord) : (m.appended s make).IsBetween where
  toIsRecorded := h.toIsRecorded.appended hs hmake
  call := (call_appended s make m).trans h.call
  inFlight := (turnInFlight_appended s make m).trans h.inFlight
  pendingEdit := (pendingEdit_appended s make m h.inFlight).trans h.pendingEdit

theorem noticed (hs : s.Remembers) (h : m.IsBetween) (text : String) :
    (m.appended s fun id now => .notice id now text).IsBetween :=
  h.appended hs fun _ _ hid hnow =>
    ⟨rfl, Message.isRecord_of_texts hid hnow rfl rfl rfl rfl (.inl rfl)⟩

theorem placed (hs : s.Remembers) (h : m.IsBetween) (sender : Sender) :
    (m.appended s fun id now => .placeholder id now sender).IsBetween :=
  h.appended hs fun _ _ hid hnow =>
    ⟨rfl, Message.isRecord_of_texts hid hnow rfl rfl rfl rfl (.inl rfl)⟩

/-- a turn that failed: its message is settled by that -/
theorem broken (hs : s.Remembers) (h : m.IsBetween) {c : Call}
    (hheld : ∃ x ∈ m.messages, x.id = c.messageId) (hprompt : ∃ t, c.prompt = .text t) (e : Fault) :
    (m.broken s c e).IsBetween := by
  have hfailed := h.dispatched hs (.fail c.messageId (failureText e))
  refine ⟨⟨hfailed.given, hfailed.log, hfailed.writer, ?_⟩, hfailed.call, hfailed.inFlight,
    hfailed.pendingEdit⟩
  rintro f ⟨⟩
  refine ⟨?_, hprompt⟩
  obtain ⟨x, hx, hid⟩ := hheld
  obtain ⟨t, -, ht⟩ := (h.log.record.messages x hx).id
  have hhas : x.hasId c.messageId = true := by
    rw [← hid, Message.hasId, ht]
    exact Value.same_text_self t
  have hmem : (if x.hasId c.messageId then x.failed (failureText e) else x) ∈
      (m.store.conversation.apply (.fail c.messageId (failureText e))).messages :=
    List.mem_map_of_mem hx
  rw [if_pos hhas, ← messages_dispatched s] at hmem
  exact ⟨_, Conversation.mem_settled.mpr ⟨hmem, rfl⟩, hid⟩

theorem requested (hs : s.Remembers) (h : m.IsBetween) (text : String) {image : Value}
    (himage : image = .null ∨ image.IsGiven) : (m.requested s text image).IsBetween := by
  have hadded : (m.appended s fun id now => .request id now (.text text) image).IsBetween :=
    h.appended hs fun _ _ hid hnow => ⟨rfl, Message.isRecord_of_texts hid hnow rfl rfl rfl rfl himage⟩
  exact ⟨⟨hadded.given, hadded.log, hadded.writer, nofun⟩, hadded.call, hadded.inFlight,
    hadded.pendingEdit⟩

theorem settled (hs : s.Remembers) (h : m.IsBetween) (outcome : Outcome) :
    (m.settled s outcome).IsInOrder (m.settled s outcome).audience := by
  have hcleared : (m.cleared s outcome).IsBetween := by
    unfold cleared
    split
    · exact (h.dispatched hs .dropPending).noticed hs _
    · exact h.dispatched hs .dropPending
  refine ⟨⟨hcleared.given, hcleared.log, hcleared.writer, hcleared.failedStep⟩,
    isIdle_settled s outcome h.call h.inFlight h.pendingEdit, fun x hx => ?_⟩
  rw [messages_settled, List.mem_append] at hx
  rcases hx with hx | hx
  · exact (Conversation.mem_settled.mp hx).2
  · split at hx
    · rw [List.mem_singleton.mp hx]
      rfl
    · cases hx

theorem asking (h : m.IsBetween) {c : Call} (hrunning : m.running = true)
    (hdebate : ∃ p, c.task = .debate p) (hheld : ∃ x ∈ m.messages, x.id = c.messageId)
    (hprompt : ∃ t, c.prompt = .text t) (hdocument : ∃ d, c.document = .text d)
    (hnone : m.failedStep = none) : (m.waitingFor c).IsAsking c :=
  ⟨⟨h.given, h.log, h.writer, h.failedStep⟩, hrunning, rfl, rfl, .inl h.pendingEdit, hdebate, hheld,
    hprompt, hdocument, hnone⟩

end IsBetween

theorem IsInOrder.withJournal {m : Moderator σ} (h : m.IsInOrder w) (j : List Entry) :
    (m.withJournal j).IsInOrder w :=
  ⟨h.toIsRecorded.withJournal j, ⟨h.idle.running, h.idle.token, h.idle.call, h.idle.inFlight,
    h.idle.pendingEdit⟩, h.settled⟩

theorem IsInOrder.isBetween (h : m.IsInOrder m.audience) : m.IsBetween :=
  ⟨h.toIsRecorded, h.idle.call, h.idle.inFlight, h.idle.pendingEdit⟩

/-- a turn that ends, with or without an edit that was kept back -/
theorem IsRecorded.turnEnded (hs : s.Remembers) (h : m.IsRecorded m.audience) (hcall : m.call = none)
    (hedit : m.store.pendingEdit = .null ∨ ∃ t, m.store.pendingEdit = .text t) :
    (m.turnEnded s).IsBetween := by
  have hlanded : { m with
      store := { m.store with turnInFlight := false, pendingEdit := .null } }.IsBetween :=
    ⟨⟨h.given, h.log, h.writer, h.failedStep⟩, hcall, rfl, rfl⟩
  unfold Moderator.turnEnded
  split
  · exact hlanded
  · rename_i hkept
    obtain ⟨t, ht⟩ := hedit.resolve_left hkept
    rw [ht]
    exact hlanded.dispatched hs (.setDocument t)

namespace IsAsking

variable {c : Call}

theorem withJournal (h : m.IsAsking c) (j : List Entry) : (m.withJournal j).IsAsking c :=
  { h with toIsRecorded := h.toIsRecorded.withJournal j }

theorem committed (hs : s.Remembers) (h : m.IsAsking c) {r : Except Fault Turn.Result}
    (hr : ∀ t, r = .ok t → ∃ d, t.document = .text d) : (m.committed s c r).IsBetween := by
  have hwithout : m.withoutCall.IsRecorded m.withoutCall.audience :=
    ⟨h.given, h.log, h.writer, h.failedStep⟩
  cases r with
  | error e => exact hwithout.turnEnded hs rfl h.pendingEdit
  | ok t =>
    obtain ⟨d, hd⟩ := hr t rfl
    have hresolution : (resolution c t).IsSettling := by
      rw [resolution, hd]
      exact .resolve ..
    have hresolved := hwithout.dispatched hs hresolution
    have hkept : (m.withoutCall.dispatched s (resolution c t)).store.pendingEdit =
        m.store.pendingEdit := by
      rw [hs.dispatched_eq]
      rfl
    exact hresolved.turnEnded hs (call_dispatched s _ _) (hkept ▸ h.pendingEdit)

/-- the message of a turn that had no result is still there -/
theorem held_committed (h : m.IsAsking c) (s : Surroundings Writer) (e : Fault) :
    ∃ x ∈ (m.committed s c (.error e)).messages, x.id = c.messageId := by
  rw [messages_committed]
  exact h.held

theorem beside (h : m.IsAsking c) (hb : Beside m m')
    (hedit : m'.store.pendingEdit = .null ∨ ∃ t, m'.store.pendingEdit = .text t) :
    m'.IsAsking c := by
  have haudience : m'.audience = m.audience := (congrArg Moderator.audience hb.same :)
  refine ⟨⟨fun k => ?_, ?_, ?_, ?_⟩, hb.running.trans h.running, hb.call.trans h.call,
    hb.turnInFlight.trans h.inFlight, hedit, h.debate, ?_, h.prompt, h.document,
    hb.failedStep.trans h.noStep⟩
  · rw [hb.idOf]
    exact h.given k
  · rw [hb.conversation]
    exact h.log.later hb.idOf hb.drawn
  · rw [hb.conversation, haudience]
    exact h.writer
  · rw [hb.conversation, hb.failedStep]
    exact h.failedStep
  · rw [messages, hb.conversation]
    exact h.held

end IsAsking

end Moderator

/-! ## after an event -/

open Moderator

section

variable {s : Surroundings Writer} {m m' : Moderator Writer} {c : Call}

theorem Follows.isBetween {f : Moderator Writer → Moderator Writer} (h : Follows f m m')
    (hm : m.IsBetween) (hf : ∀ n : Moderator Writer, n.IsBetween → (f n).IsBetween) : m'.IsBetween :=
  h.preserves hm (fun _ j hn => hn.withJournal j) hf fun _ j hn => hn.withJournal j

theorem Follows.isInOrder {o : Outcome} (h : Follows (settled s o) m m') (hs : s.Remembers)
    (hm : m.IsBetween) : m'.IsInOrder m'.audience :=
  h.preserves hm (Q := fun n => n.IsInOrder n.audience) (fun _ j hn => hn.withJournal j)
    (fun _ hn => hn.settled hs o) fun _ j hn => hn.withJournal j

theorem Follows.isBetween_committed {r : Except Fault Turn.Result}
    (h : Follows (committed s c r) m m') (hs : s.Remembers) (hm : m.IsAsking c)
    (hr : ∀ t, r = .ok t → ∃ d, t.document = .text d) : m'.IsBetween :=
  h.preserves (P := (IsAsking c)) hm (fun _ j hn => hn.withJournal j)
    (fun _ hn => hn.committed hs hr) fun _ j hn => hn.withJournal j

/-- a debate goes on, or comes to its end -/
theorem Continued.onRecord (hs : s.Remembers) (h : Continued s m m') (hm : m.IsBetween)
    (hrunning : m.running = true) (hnone : m.failedStep = none) :
    (∃ c, m'.IsAsking c) ∨ m'.IsInOrder m'.audience := by
  cases h with
  | @waits _ c _ _ _ hplaced htask hid hdocument hprompt =>
    left
    have hbetween := hplaced.isBetween hm fun _ hn => hn.placed hs _
    obtain ⟨j, k, rfl⟩ := hplaced
    refine ⟨_, hbetween.asking ?_ ⟨_, htask⟩ ?_ ⟨_, hprompt⟩ ⟨_, hdocument⟩ ?_⟩
    · exact (running_appended s _ _).trans hrunning
    · refine ⟨.placeholder m.supply.draw.1 m.supply.timestamp c.persona.sender, ?_, hid.symm⟩
      change _ ∈ ((m.withJournal j).appended s _).messages
      rw [messages_appended]
      exact List.mem_append_right _ (List.mem_singleton_self _)
    · exact (failedStep_appended s _ _).trans hnone
  | stopped hend => exact .inr (hend.isInOrder hs hm)
  | stoppedLate hplaced hend =>
    exact .inr (hend.isInOrder hs (hplaced.isBetween hm fun _ hn => hn.placed hs _))
  | complete hend => exact .inr (hend.isInOrder hs hm)
  | agreed hsaid hend =>
    exact .inr (hend.isInOrder hs (hsaid.isBetween hm fun _ hn => hn.noticed hs _))
  | failed hend => exact .inr (hend.isInOrder hs hm)

/-- a reply in a debate -/
theorem Replied.onRecord (hs : s.Remembers) (h : Replied s c m m') (hm : m.IsAsking c) :
    (∃ c, m'.IsAsking c) ∨ m'.IsInOrder m'.audience := by
  cases h with
  | went htask hr hturn hrest =>
    have hbetween := hturn.isBetween_committed hs hm fun t ht => by
      cases ht
      exact hr
    obtain ⟨j, k, rfl⟩ := hturn
    exact hrest.onRecord hs hbetween ((running_committed s c _ _).trans hm.running)
      ((failedStep_committed s c _ _).trans hm.noStep)
  | cancelled htask hturn hend =>
    exact .inr (hend.isInOrder hs (hturn.isBetween_committed hs hm nofun))
  | @broke _ _ _ _ e htask hturn hbroken hend =>
    have hbetween := hturn.isBetween_committed hs hm nofun
    obtain ⟨j, k, rfl⟩ := hturn
    have hheld := (hm.withJournal j).held_committed s e
    obtain ⟨j', k', rfl⟩ := hbroken
    have hfailed := (hbetween.withJournal j').broken hs hheld hm.prompt e
    exact .inr (hend.isInOrder hs (hfailed.withJournal k'))
  | replayed htask _ _ _ _ _ =>
    obtain ⟨p, hp⟩ := hm.debate
    rw [htask] at hp
    cases hp

namespace Moderator

/-- an event of a run -/
theorem IsAsking.step (hs : s.Remembers) (h : m.IsAsking c) {e : Event} (he : e.isOfRun = true) :
    (∃ c, (m.step s e).IsAsking c) ∨ (m.step s e).IsInOrder (m.step s e).audience := by
  obtain ⟨d, hd⟩ := h.log.record.document
  obtain ⟨d', hd'⟩ := h.document
  by_cases hreply : e.isReply = true
  · cases e with
    | replied reply =>
      exact (replied_step hs.isCalm h.call hd' hd h.pendingEdit reply).onRecord hs h
    | _ => cases hreply
  · have hbeside : e.isBeside = true := by
      cases e with
      | replied reply => exact absurd rfl hreply
      | _ => exact he
    exact .inl ⟨c, h.beside (beside_step s h.running h.inFlight hbeside).1
      (pendingEdit_step s h.running h.inFlight hbeside h.pendingEdit)⟩

theorem IsAsking.during (hs : s.Remembers) (h : m.IsAsking c) {es : List Event}
    (hes : ∀ e ∈ es, e.isOfRun = true) :
    (∃ c, (m.during s es).IsAsking c) ∨ (m.during s es).IsInOrder (m.during s es).audience := by
  induction es generalizing m c with
  | nil => exact .inl ⟨c, h⟩
  | cons e es ih =>
    have htail : ∀ x ∈ es, x.isOfRun = true := fun x hx => hes x (List.mem_cons_of_mem e hx)
    rw [during_cons s h.running]
    rcases h.step hs (hes e List.mem_cons_self) with ⟨c', hasking⟩ | hend
    · exact ih hasking htail
    · rw [during_of_idle s hend.idle.running]
      exact .inr hend

/-- a whole run leaves a moderator that is in order again -/
theorem IsInOrder.run (hs : s.Remembers) (h : m.IsInOrder m.audience) (text : String) {image : Value}
    (himage : image = .null ∨ image.IsGiven) {es : List Event} (hes : ∀ e ∈ es, e.isOfRun = true)
    (hrun : ((m.step s (.told (.submit (.text text) image))).during s es).running = false) :
    ((m.step s (.told (.submit (.text text) image))).during s es).IsInOrder
      ((m.step s (.told (.submit (.text text) image))).during s es).audience := by
  obtain ⟨d, hd⟩ := h.log.record.document
  rcases continued_submit hs.isCalm h.idle.running hd text image with
    ⟨e, j, hj⟩ | ⟨m₁, hrequest, hrest⟩
  · have hrefused : m.step s (.told (.submit (.text text) image)) = m.withJournal j := by
      rw [Moderator.step, obey, snd_carry_map _ _ _ fun a _ => by cases a <;> rfl, hj]
    rw [hrefused, during_of_idle s (show (m.withJournal j).running = false from h.idle.running)]
    exact h.withJournal j
  · have hbetween := hrequest.isBetween h.isBetween fun _ hn => hn.requested hs text himage
    obtain ⟨j, k, rfl⟩ := hrequest
    generalize m.step s (.told (.submit (.text text) image)) = m' at hrest hrun ⊢
    rcases hrest.onRecord hs hbetween rfl rfl with ⟨c, hasking⟩ | hend
    · rcases hasking.during hs hes with ⟨c', hwaits⟩ | hend
      · rw [hwaits.running] at hrun
        cases hrun
      · exact hend
    · rw [during_of_idle s hend.idle.running]
      exact hend

end Moderator

end

end Debate
