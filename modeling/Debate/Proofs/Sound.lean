import Debate.Proofs.Regular
import Debate.Proofs.Saved

/-!
# Logs that can be saved at any time

A log can be saved and read back if its messages have ids that are not empty and hold no doubles. The
program makes no other messages, so a log stays one that can be saved, whatever happens; and no id that
is drawn later is in it already.

* `Action.IsPlain`            a change that brings nothing that cannot be read back;
* `Conversation.IsSound`      a log that can be saved, and whose ids will not be drawn again;
* `Moderator.IsSound`         the same for all conversations that a moderator knows of;
* `Event.IsProper`            an event that the program can bring about, one command after the other;
* `Moderator.IsSound.step`    every such event leaves all logs sound.
-/

namespace Debate

variable {σ : Type}

/-- a change that brings nothing that cannot be read back -/
def Action.IsPlain : Action → Prop
  | .append x | .replace x => x.IsPlain
  | .resolve _ text durationMs _ => text.IsPlain ∧ durationMs.IsPlain
  | .fail _ _ | .reopen _ | .dropPending | .setDocument _ => True

/-- a change that adds no message -/
def Action.IsRevision : Action → Prop
  | .append _ => False
  | _ => True

/-- a log that can be saved, and whose ids will not be drawn again -/
structure Conversation.IsSound (u : Supply) (c : Conversation) : Prop where
  plain : c.IsPlain
  fresh : u.IsFresh c.messages

namespace Message.IsPlain

variable {x : Message}

theorem resolved (h : x.IsPlain) {text durationMs : Value} (ht : text.IsPlain)
    (hd : durationMs.IsPlain) : (x.resolved text durationMs).IsPlain :=
  ⟨h.id, ht, h.timestamp, hd, h.image⟩

theorem failed (h : x.IsPlain) (error : String) : (x.failed error).IsPlain :=
  ⟨h.id, .text _, h.timestamp, h.durationMs, h.image⟩

theorem reopened (h : x.IsPlain) : x.reopened.IsPlain :=
  ⟨h.id, .text _, h.timestamp, h.durationMs, h.image⟩

theorem of_texts {id text timestamp : String} (hid : id ≠ "") (hid' : x.id = .text id)
    (htext : x.text = .text text) (htime : x.timestamp = .text timestamp)
    (hduration : x.durationMs = .null) (himage : x.image.IsPlain) : x.IsPlain :=
  ⟨⟨id, hid, hid'⟩, htext ▸ .text _, htime ▸ .text _, hduration ▸ .null, himage⟩

end Message.IsPlain

/-- a title is short enough, or the start of a text -/
theorem isPlain_titleOf {v w : Value} (hv : v.IsPlain) (h : titleOf v = .ok w) : w.IsPlain := by
  cases v with
  | text t =>
    rw [titleOf_text] at h
    cases h
    exact .text _
  | _ =>
    -- what is no text is a title only as it is
    simp only [titleOf, bind, Except.bind, throw, throwThe, MonadExceptOf.throw, pure,
      Except.pure] at h
    split at h
    · cases h
    · split at h
      · cases h
      · cases h
        exact hv

namespace Conversation

variable {c c' : Conversation} {u u' : Supply}

namespace IsPlain

theorem of_sameLog (hc : c.IsPlain) (h : c.SameLog c') : c'.IsPlain := by
  rw [h]
  exact ⟨hc.id, hc.title, hc.createdAt, hc.updatedAt, hc.messages⟩

theorem modify (h : c.IsPlain) (id : Value) {f : Message → Message}
    (hf : ∀ x : Message, x.IsPlain → (f x).IsPlain) : (c.modify id f).IsPlain := by
  refine ⟨h.id, h.title, h.createdAt, h.updatedAt, fun x hx => ?_⟩
  obtain ⟨y, hy, rfl⟩ := List.mem_map.mp hx
  split
  · exact hf y (h.messages y hy)
  · exact h.messages y hy

theorem titleWith (h : c.IsPlain) {x : Message} (hx : x.IsPlain) : (c.titleWith x).IsPlain := by
  unfold Conversation.titleWith
  split
  · cases ht : titleOf x.text with
    | ok v => exact isPlain_titleOf hx.text ht
    | error e => exact h.title
  · exact h.title

theorem apply (h : c.IsPlain) {a : Action} (ha : a.IsPlain) : (c.apply a).IsPlain := by
  cases a with
  | append x =>
    refine ⟨h.id, h.titleWith ha, h.createdAt, ha.timestamp, fun y hy => ?_⟩
    rcases List.mem_append.mp hy with hy | hy
    · exact h.messages y hy
    · rw [List.mem_singleton.mp hy]
      exact ha
  | resolve id text durationMs document =>
    have hresolved := h.modify id fun x hx => hx.resolved ha.1 ha.2
    exact ⟨hresolved.id, hresolved.title, hresolved.createdAt, hresolved.updatedAt,
      hresolved.messages⟩
  | fail id error => exact h.modify id fun x hx => hx.failed error
  | reopen id => exact h.modify id fun x hx => hx.reopened
  | replace x => exact h.modify x.id fun _ _ => ha
  | dropPending =>
    exact ⟨h.id, h.title, h.createdAt, h.updatedAt,
      fun x hx => h.messages x (List.mem_filter.mp hx).1⟩
  | setDocument content => exact ⟨h.id, h.title, h.createdAt, h.updatedAt, h.messages⟩

end IsPlain

theorem ids_of_modify (c : Conversation) (id : Value) {f : Message → Message}
    (hf : ∀ x, x.hasId id = true → (f x).id = x.id) {y : Message}
    (hy : y ∈ (c.modify id f).messages) : ∃ x ∈ c.messages, y.id = x.id := by
  have hids := c.ids_modify id f hf
  have hmem : y.id ∈ c.messages.map (·.id) := hids ▸ List.mem_map_of_mem hy
  obtain ⟨x, hx, hxy⟩ := List.mem_map.mp hmem
  exact ⟨x, hx, hxy.symm⟩

theorem ids_of_apply {a : Action} (hrevision : a.IsRevision) (ha : a.IsPlain) {y : Message}
    (hy : y ∈ (c.apply a).messages) : ∃ x ∈ c.messages, y.id = x.id := by
  cases a with
  | append x => exact hrevision.elim
  | resolve id text durationMs document =>
    exact c.ids_of_modify id (f := fun x => x.resolved text durationMs) (fun _ _ => rfl) hy
  | fail id error => exact c.ids_of_modify id (f := fun x => x.failed error) (fun _ _ => rfl) hy
  | reopen id => exact c.ids_of_modify id (f := fun x => x.reopened) (fun _ _ => rfl) hy
  | replace x =>
    obtain ⟨t, -, ht⟩ := ha.id
    refine c.ids_of_modify x.id (fun z hz => ?_) hy
    rw [Message.hasId, ht] at hz
    rw [ht, Value.eq_of_same_text hz]
  | dropPending => exact ⟨y, (List.mem_filter.mp hy).1, rfl⟩
  | setDocument content => exact ⟨y, hy, rfl⟩

namespace IsSound

theorem of_sameLog (hc : c.IsSound u) (h : c.SameLog c') : c'.IsSound u :=
  ⟨hc.plain.of_sameLog h, h.messages ▸ hc.fresh⟩

theorem later (h : c.IsSound u) (hid : u'.idOf = u.idOf) (hdrawn : u.drawn ≤ u'.drawn) :
    c.IsSound u' := ⟨h.plain, h.fresh.later hid hdrawn⟩

theorem revised (h : c.IsSound u) {a : Action} (hrevision : a.IsRevision) (ha : a.IsPlain) :
    (c.apply a).IsSound u :=
  ⟨h.plain.apply ha, h.fresh.of_ids fun _ hy => ids_of_apply hrevision ha hy⟩

theorem append (h : c.IsSound u) {x : Message} (hx : x.IsPlain) (hid : x.id = .text u.draw.1) :
    (c.apply (.append x)).IsSound u.draw.2 := ⟨h.plain.apply (a := .append x) hx, h.fresh.append hid⟩

end IsSound

end Conversation

namespace Moderator

variable {s : Surroundings σ} {m m' : Moderator σ}

/-- all logs that a moderator knows of can be saved, also the message that a retry may put back -/
structure IsSound (m : Moderator σ) : Prop where
  given : ∀ k, m.supply.idOf k ≠ ""
  log : m.store.conversation.IsSound m.supply
  waiters : ∀ w ∈ m.waiting, w.conversation.IsSound m.supply
  retried : ∀ c previous, m.call = some c → c.task = .retry previous → previous.IsPlain

namespace IsSound

theorem withJournal (h : m.IsSound) (j : List Entry) : (m.withJournal j).IsSound :=
  ⟨h.given, h.log, h.waiters, h.retried⟩

theorem of_sameLog (h : m.IsSound) {c : Conversation} (hc : c.IsSound m.supply)
    (hlog : c.SameLog m'.store.conversation) (hsupply : m'.supply = m.supply)
    (hwaiting : m'.waiting = m.waiting) (hcall : m'.call = m.call ∨ m'.call = none) :
    m'.IsSound where
  given := hsupply ▸ h.given
  log := hsupply ▸ hc.of_sameLog hlog
  waiters w hw := hsupply ▸ h.waiters w (hwaiting ▸ hw)
  retried c previous hc htask := by
    rcases hcall with hcall | hcall
    · exact h.retried c previous (hcall ▸ hc) htask
    · rw [hcall] at hc
      cases hc

theorem dispatched (h : m.IsSound) (s : Surroundings σ) {a : Action} (hrevision : a.IsRevision)
    (ha : a.IsPlain) : (m.dispatched s a).IsSound :=
  h.of_sameLog (h.log.revised hrevision ha) (sameLog_dispatched s a m) (supply_dispatched s a m)
    (waiting_dispatched s a m) (.inl (call_dispatched s a m))

theorem appended (h : m.IsSound) (s : Surroundings σ) (make : String → String → Message)
    (hmake : ∀ id now, id ≠ "" → (make id now).id = .text id ∧ (make id now).IsPlain) :
    (m.appended s make).IsSound := by
  obtain ⟨hid, hplain⟩ := hmake m.supply.draw.1 m.supply.timestamp (h.given _)
  -- the id is drawn before the message is added
  have hdrawn : { m with supply := m.supply.draw.2 }.IsSound :=
    ⟨h.given, h.log.later rfl (Nat.le_succ _),
      fun w hw => (h.waiters w hw).later rfl (Nat.le_succ _), h.retried⟩
  exact hdrawn.of_sameLog (h.log.append hplain hid) (sameLog_dispatched s _ _)
    (supply_dispatched s _ _) (waiting_dispatched s _ _) (.inl (call_dispatched s _ _))

theorem noticed (h : m.IsSound) (s : Surroundings σ) (text : String) :
    (m.appended s fun id now => .notice id now text).IsSound :=
  h.appended s _ fun _ _ hid => ⟨rfl, .of_texts hid rfl rfl rfl rfl .null⟩

theorem placed (h : m.IsSound) (s : Surroundings σ) (sender : Sender) :
    (m.appended s fun id now => .placeholder id now sender).IsSound :=
  h.appended s _ fun _ _ hid => ⟨rfl, .of_texts hid rfl rfl rfl rfl .null⟩

theorem requested (h : m.IsSound) (s : Surroundings σ) (text : String) {image : Value}
    (himage : image.IsPlain) : (m.requested s text image).IsSound := by
  have hadded : (m.appended s fun id now => .request id now (.text text) image).IsSound :=
    h.appended s _ fun _ _ hid => ⟨rfl, .of_texts hid rfl rfl rfl rfl himage⟩
  exact ⟨hadded.given, hadded.log, hadded.waiters, hadded.retried⟩

theorem reopened (h : m.IsSound) (s : Surroundings σ) (previous : Message) :
    (m.reopened s previous).IsSound := by
  have hstart : { m with token := some false, running := true }.IsSound :=
    ⟨h.given, h.log, h.waiters, h.retried⟩
  exact hstart.dispatched s (a := .reopen previous.id) trivial trivial

theorem turnEnded (h : m.IsSound) (s : Surroundings σ) : (m.turnEnded s).IsSound :=
  h.of_sameLog h.log (sameLog_turnEnded s m) (supply_turnEnded s m) (waiting_turnEnded s m)
    (.inl (call_turnEnded s m))

theorem committed (h : m.IsSound) (s : Surroundings σ) (c : Call) (r : Except Fault Turn.Result) :
    (m.committed s c r).IsSound := by
  have hwithout : m.withoutCall.IsSound := ⟨h.given, h.log, h.waiters, fun _ _ => nofun⟩
  cases r with
  | error e => exact hwithout.turnEnded s
  | ok r =>
    have hresolved : (m.withoutCall.dispatched s (resolution c r)).IsSound :=
      hwithout.dispatched s trivial ⟨.text _, .int _⟩
    exact hresolved.turnEnded s

theorem broken (h : m.IsSound) (s : Surroundings σ) (c : Call) (e : Fault) :
    (m.broken s c e).IsSound := by
  have hfailed : (m.dispatched s (.fail c.messageId (failureText e))).IsSound :=
    h.dispatched s trivial trivial
  exact ⟨hfailed.given, hfailed.log, hfailed.waiters, hfailed.retried⟩

theorem playedBack (h : m.IsSound) (s : Surroundings σ) {α : Type} (r : Except Fault α) :
    (m.playedBack s r).IsSound := by
  cases r with
  | error _ => exact h
  | ok _ =>
    have hnone : { m with failedStep := none }.IsSound := ⟨h.given, h.log, h.waiters, h.retried⟩
    exact hnone.noticed s retryNotice

theorem mended (h : m.IsSound) (s : Surroundings σ) {previous : Message} (hp : previous.IsPlain)
    {α : Type} (r : Except Fault α) : (m.mended s previous r).IsSound := by
  cases r with
  | ok _ => exact h
  | error e =>
    cases e with
    | cancelled => exact h.dispatched s (a := .replace previous) trivial hp
    | aborted => exact h.dispatched s (a := .replace previous) trivial hp
    | _ => exact h.dispatched s trivial trivial

theorem settled (h : m.IsSound) (s : Surroundings σ) (outcome : Outcome) :
    (m.settled s outcome).IsSound := by
  have hdropped : (m.dispatched s .dropPending).IsSound := h.dispatched s trivial trivial
  have hcleared : (m.cleared s outcome).IsSound := by
    unfold cleared
    split
    · exact hdropped.noticed s cancelledNotice
    · exact hdropped
  refine ⟨hcleared.given, hcleared.log, fun w hw => ?_, hcleared.retried⟩
  obtain ⟨w', hw', rfl⟩ := List.mem_map.mp hw
  exact hcleared.waiters w' hw'

theorem waitingFor (h : m.IsSound) {c : Call}
    (hc : ∀ previous, c.task = .retry previous → previous.IsPlain) : (m.waitingFor c).IsSound := by
  refine ⟨h.given, h.log, h.waiters, fun c' previous hc' => ?_⟩
  cases hc'
  exact hc previous

theorem attachedTo (h : m.IsSound) (s : Surroundings σ) {c : Conversation}
    (hc : c.IsSound m.supply) : (m.attachedTo s c).IsSound := by
  have hload := heeded_heeded s { m with store := { conversation := c } }
  exact h.of_sameLog hc (congrArg Store.conversation hload.store :)
    (congrArg Moderator.supply hload.same :) (congrArg Moderator.waiting hload.same :)
    (.inl (congrArg Moderator.call hload.same :))

theorem beside (h : m.IsSound) (hb : Beside m m')
    (hwaiting : ∀ w ∈ m'.waiting, w ∈ m.waiting ∨ w.conversation.IsSound m.supply) :
    m'.IsSound where
  given k := by
    rw [hb.idOf]
    exact h.given k
  log := by
    rw [hb.conversation]
    exact h.log.later hb.idOf hb.drawn
  waiters w hw := ((hwaiting w hw).elim (h.waiters w) id).later hb.idOf hb.drawn
  retried c previous hc htask := h.retried c previous (hb.call ▸ hc) htask

end IsSound

end Moderator

/-! ## after every event -/

/-- an event that the program can bring about when one command is given after the other: a
conversation that waits is attached before another run is started -/
structure Event.IsProper (m : Moderator σ) (e : Event) : Prop where
  typed : e.IsTyped
  image : ∀ text image, e = .told (.submit text image) → image.IsPlain
  sound : ∀ c, e = .told (.switch c) → c.IsSound m.supply
  inTurn : e = .attached → m.running = false

theorem Event.IsProper.brings {m : Moderator σ} {e : Event} {c : Conversation} (he : e.IsProper m)
    (hm : m.IsSound) (hc : e.Brings m c) : c.IsSound m.supply := by
  cases hc with
  | switch c => exact he.sound c rfl
  | startNew text =>
    exact ⟨⟨.text _, .text _, .text _, .text _, nofun⟩, hm.log.fresh.of_ids fun _ => nofun⟩

section

open Moderator

variable {s : Surroundings σ} {m m' : Moderator σ}

theorem Follows.isSound {f : Moderator σ → Moderator σ} (h : Follows f m m') (hm : m.IsSound)
    (hf : ∀ n : Moderator σ, n.IsSound → (f n).IsSound) : m'.IsSound :=
  h.preserves hm (fun _ j hn => hn.withJournal j) hf fun _ j hn => hn.withJournal j

theorem Continued.isSound (h : Continued s m m') (hm : m.IsSound) : m'.IsSound := by
  cases h with
  | waits hplaced htask _ _ _ =>
    refine (hplaced.isSound hm fun _ hn => hn.placed s _).waitingFor fun previous hprevious => ?_
    rw [htask] at hprevious
    cases hprevious
  | stopped hend => exact hend.isSound hm fun _ hn => hn.settled s _
  | stoppedLate hplaced hend =>
    exact hend.isSound (hplaced.isSound hm fun _ hn => hn.placed s _) fun _ hn => hn.settled s _
  | complete hend => exact hend.isSound hm fun _ hn => hn.settled s _
  | agreed hsaid hend =>
    exact hend.isSound (hsaid.isSound hm fun _ hn => hn.noticed s _) fun _ hn => hn.settled s _
  | failed hend => exact hend.isSound hm fun _ hn => hn.settled s _

theorem Replied.isSound {c : Call} (h : Replied s c m m') (hcall : m.call = some c)
    (hm : m.IsSound) : m'.IsSound := by
  have turn {r : Except Fault Turn.Result} {m₁ : Moderator σ}
      (hturn : Follows (committed s c r) m m₁) : m₁.IsSound :=
    hturn.isSound hm fun _ hn => hn.committed s c r
  cases h with
  | went _ _ hturn hrest => exact hrest.isSound (turn hturn)
  | cancelled _ hturn hend => exact hend.isSound (turn hturn) fun _ hn => hn.settled s _
  | broke _ hturn hbroken hend =>
    exact hend.isSound (hbroken.isSound (turn hturn) fun _ hn => hn.broken s c _)
      fun _ hn => hn.settled s _
  | replayed htask _ hturn hplayed hmended hend =>
    have hm₂ := hplayed.isSound (turn hturn) fun _ hn => hn.playedBack s _
    have hm₃ := hmended.isSound hm₂ fun _ hn => hn.mended s (hm.retried c _ hcall htask) _
    exact hend.isSound hm₃ fun _ hn => hn.settled s _

theorem Reopened.isSound (h : Reopened s m m') (hm : m.IsSound) : m'.IsSound := by
  have found {f : FailedStep} {previous : Message}
      (hfound : m.store.conversation.find? f.messageId = some previous) : previous.IsPlain :=
    hm.log.plain.messages previous (List.mem_of_find?_eq_some hfound)
  cases h with
  | refused j => exact hm.withJournal j
  | gone j _ _ => exact ⟨hm.given, hm.log, hm.waiters, hm.retried⟩
  | waits _ _ hfound hopen htask _ _ _ =>
    refine (hopen.isSound hm fun _ hn => hn.reopened s _).waitingFor fun previous hprevious => ?_
    rw [htask] at hprevious
    cases hprevious
    exact found hfound
  | @stopped _ _ _ _ previous _ _ hfound hopen hback hend =>
    have hm₁ := hopen.isSound hm fun _ hn => hn.reopened s _
    have hm₂ := hback.isSound hm₁ fun _ hn =>
      hn.dispatched s (a := .replace previous) trivial (found hfound)
    exact hend.isSound hm₂ fun _ hn => hn.settled s _

/-- every event leaves all logs sound, also one that attaches a conversation while a run waits -/
theorem Moderator.IsSound.step (hm : m.IsSound) (hs : s.IsCalm) (hregular : m.IsRegular) {e : Event}
    (he : e.IsProper m) : (m.step s e).IsSound := by
  have hhappened := hregular.happened hs he.typed
  generalize m.step s e = m' at hhappened
  cases hhappened with
  | beside h _ hwaiting => exact hm.beside h fun w hw => .inl (hwaiting ▸ hw)
  | queued hc _ h _ hwaiting =>
    refine hm.beside h fun w hw => ?_
    rw [hwaiting] at hw
    rcases List.mem_append.mp hw with hw | hw
    · exact .inl hw
    · rw [List.mem_singleton.mp hw]
      exact .inr (he.brings hm hc)
  | edited _ => exact hm.dispatched s trivial trivial
  | attachedNow hc _ supply hid hdrawn =>
    have hlater : { m with supply }.IsSound :=
      hm.beside ⟨rfl, rfl, hid, hdrawn, .inl rfl⟩ fun w hw => .inl hw
    exact hlater.attachedTo s ((he.brings hm hc).later hid hdrawn)
  | @attachedLate w rest hwaiting _ =>
    have hrest : { m with waiting := rest }.IsSound :=
      ⟨hm.given, hm.log, fun x hx => hm.waiters x (hwaiting ▸ List.mem_cons_of_mem w hx),
        hm.retried⟩
    exact hrest.attachedTo s (hm.waiters w (hwaiting ▸ List.mem_cons_self))
  | begun _ hrequest hrest =>
    have himage := he.image _ _ rfl
    exact hrest.isSound (hrequest.isSound hm fun _ hn => hn.requested s _ himage)
  | reopened _ h => exact h.isSound hm
  | replied hcall h => exact h.isSound hcall hm

end

end Debate
