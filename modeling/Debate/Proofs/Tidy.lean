import Debate.Proofs.Regular
import Mathlib.Data.List.Nodup

/-!
# Conversations left in order

A conversation is clean if nothing in it is pending and its time is that of its last message. A run
makes it unclean and clean again: a placeholder that goes is always followed by a notice, and one that
stays is settled. This module follows a conversation through the parts of a run.

* `AllSettled`, `OnlyLastPending`, `AtMostOnePending`   how much of a log is pending;
* `Conversation.IsClean`   nothing is pending, and the conversation has the time of its last message;
* `Conversation.IsKnown`   the ids of the messages are texts, differ, and will not be drawn again;
* `Moderator.Knows`        the same for the conversation at hand, with clean conversations waiting;
* `Moderator.IsTidy`       a moderator whose conversation is clean;
* `Moderator.Holds`, `Moderator.IsSteady`   a moderator with nothing pending but the message of a call;
* `Moderator.MaySettle`    a moderator whose conversation is clean once its run is settled.
-/

namespace Debate

variable {σ : Type}

/-! ## conversations -/

/-- a log in which nothing is pending -/
def AllSettled (xs : List Message) : Prop := ∀ x ∈ xs, x.pending = false

/-- a log in which nothing but the last message is pending -/
def OnlyLastPending (xs : List Message) : Prop := AllSettled xs.dropLast

/-- a log in which at most one message is pending -/
def AtMostOnePending (xs : List Message) : Prop := xs.countP (·.pending) ≤ 1

theorem AllSettled.onlyLast {xs : List Message} (h : AllSettled xs) : OnlyLastPending xs :=
  fun x hx => h x (List.dropLast_subset xs hx)

theorem OnlyLastPending.atMostOne {xs : List Message} (h : OnlyLastPending xs) :
    AtMostOnePending xs := by
  rcases List.eq_nil_or_concat xs with rfl | ⟨ys, y, rfl⟩
  · exact Nat.zero_le 1
  · rw [List.concat_eq_append] at h ⊢
    rw [OnlyLastPending, List.dropLast_concat] at h
    have hnone : ys.countP (·.pending) = 0 := List.countP_eq_zero.mpr fun x hx => by simp [h x hx]
    rw [AtMostOnePending, List.countP_append, hnone, Nat.zero_add]
    exact List.countP_le_length

theorem AllSettled.atMostOne {xs : List Message} (h : AllSettled xs) : AtMostOnePending xs :=
  h.onlyLast.atMostOne

/-- messages whose ids are texts that differ -/
structure Distinct (xs : List Message) : Prop where
  text : ∀ v ∈ xs.map (·.id), ∃ t, v = .text t
  nodup : (xs.map (·.id)).Nodup

namespace Conversation

/-- a conversation with the time of its last message -/
def IsDated (c : Conversation) : Prop :=
  ∀ x, c.messages.getLast? = some x → c.updatedAt = x.timestamp

/-- a conversation in which nothing is pending, with the time of its last message -/
structure IsClean (c : Conversation) : Prop where
  settled : AllSettled c.messages
  dated : c.IsDated

/-- a conversation whose messages have ids that differ, and that will not be drawn again -/
structure IsKnown (u : Supply) (c : Conversation) : Prop where
  distinct : Distinct c.messages
  fresh : u.IsFresh c.messages

end Conversation

namespace Distinct

variable {xs ys : List Message}

theorem of_sublist (h : Distinct xs) (hys : (ys.map (·.id)).Sublist (xs.map (·.id))) :
    Distinct ys :=
  ⟨fun v hv => h.text v (hys.subset hv), h.nodup.sublist hys⟩

theorem append (h : Distinct xs) {u : Supply} (hu : u.IsFresh xs) {x : Message}
    (hx : x.id = .text u.draw.1) : Distinct (xs ++ [x]) := by
  constructor
  · intro v hv
    rw [List.map_append, List.mem_append] at hv
    rcases hv with hv | hv
    · exact h.text v hv
    · rw [List.mem_singleton.mp hv]
      exact ⟨_, hx⟩
  · rw [List.map_append, List.nodup_append]
    refine ⟨h.nodup, by simp, fun v hv w hw hvw => ?_⟩
    obtain ⟨y, hy, rfl⟩ := List.mem_map.mp hv
    obtain rfl := List.mem_singleton.mp hw
    -- an id that is there already was not to be drawn
    have hsame := hu.unused u.drawn (Nat.le_refl _) y hy
    rw [Message.hasId, hvw.trans hx] at hsame
    exact absurd ((Value.same_text_self _).symm.trans hsame) Bool.false_ne_true.symm

theorem countP_hasId_le (h : Distinct xs) (t : String) :
    xs.countP (·.hasId (.text t)) ≤ 1 := by
  have hcount : xs.countP (·.hasId (.text t)) ≤ (xs.map (·.id)).count (.text t) := by
    rw [List.count, List.countP_map]
    refine List.countP_mono_left fun x _ hx => ?_
    simpa using Value.eq_of_same_text hx
  exact Nat.le_trans hcount (List.nodup_iff_count_le_one.mp h.nodup _)

end Distinct

/-- of messages that all have one id at most one is pending -/
theorem Distinct.countP_pending_le {xs : List Message} (h : Distinct xs) {t : String}
    (hxs : ∀ x ∈ xs, x.pending = true → x.hasId (.text t) = true) : AtMostOnePending xs :=
  Nat.le_trans (List.countP_mono_left fun x hx hp => hxs x hx hp) (h.countP_hasId_le t)

/-- ids that were not drawn before differ from those of all messages, also of messages that go -/
theorem Supply.IsFresh.of_sublist {u : Supply} {xs ys : List Message} (h : u.IsFresh xs)
    (hys : (ys.map (·.id)).Sublist (xs.map (·.id))) : u.IsFresh ys := by
  refine h.of_ids fun y hy => ?_
  obtain ⟨x, hx, hid⟩ := List.mem_map.mp (hys.subset (List.mem_map_of_mem hy))
  exact ⟨x, hx, hid.symm⟩

namespace Conversation

variable {c c' : Conversation} {u u' : Supply}

theorem IsKnown.of_sublist (h : c.IsKnown u)
    (hids : (c'.messages.map (·.id)).Sublist (c.messages.map (·.id))) : c'.IsKnown u :=
  ⟨h.distinct.of_sublist hids, h.fresh.of_sublist hids⟩

theorem IsKnown.later (h : c.IsKnown u) (hid : u'.idOf = u.idOf) (hdrawn : u.drawn ≤ u'.drawn) :
    c.IsKnown u' := ⟨h.distinct, h.fresh.later hid hdrawn⟩

theorem IsKnown.append (h : c.IsKnown u) {x : Message} (hx : x.id = .text u.draw.1) :
    (c.apply (.append x)).IsKnown u.draw.2 :=
  ⟨h.distinct.append h.fresh hx, h.fresh.append hx⟩

theorem isDated_append (c : Conversation) (x : Message) : (c.apply (.append x)).IsDated := by
  intro y hy
  rw [show (c.apply (.append x)).messages = c.messages ++ [x] from rfl, List.getLast?_concat] at hy
  rw [← Option.some.inj hy]
  rfl

theorem IsDated.modify (h : c.IsDated) (id : Value) {f : Message → Message}
    (hf : ∀ x, (f x).timestamp = x.timestamp) : (c.modify id f).IsDated := by
  intro y hy
  rw [show (c.modify id f).messages = c.messages.map fun x => if x.hasId id then f x else x from rfl,
    List.getLast?_map, Option.map_eq_some_iff] at hy
  obtain ⟨x, hx, rfl⟩ := hy
  rw [show (c.modify id f).updatedAt = c.updatedAt from rfl, h x hx]
  split
  · rw [hf]
  · rfl

theorem IsClean.dropPending (h : c.IsClean) : (c.apply .dropPending).IsClean := by
  have hsettled : c.settled = c.messages := List.filter_eq_self.mpr fun x hx => by
    rw [h.settled x hx]
    rfl
  refine ⟨fun x hx => h.settled x (hsettled ▸ hx), fun x hx => h.dated x ?_⟩
  rw [← hsettled]
  exact hx

theorem settled_append {x : Message} (hc : AllSettled c.messages)
    (hx : x.pending = false) : (c.apply (.append x)).IsClean := by
  refine ⟨fun y hy => ?_, c.isDated_append x⟩
  rcases List.mem_append.mp hy with hy | hy
  · exact hc y hy
  · rw [List.mem_singleton.mp hy]
    exact hx

theorem SameLog.isDated (h : c.SameLog c') (hc : c.IsDated) : c'.IsDated := by
  rw [h]
  exact hc

theorem SameLog.isClean (h : c.SameLog c') (hc : c.IsClean) : c'.IsClean :=
  ⟨h.messages ▸ hc.settled, h.isDated hc.dated⟩

theorem SameLog.isKnown (h : c.SameLog c') (hc : c.IsKnown u) : c'.IsKnown u :=
  ⟨h.messages ▸ hc.distinct, h.messages ▸ hc.fresh⟩

end Conversation

/-! ## moderators -/

namespace Moderator

variable {s : Surroundings σ} {m m' : Moderator σ}

theorem sameLog_committed_ok (s : Surroundings σ) (c : Call) (r : Turn.Result) (m : Moderator σ) :
    (m.store.conversation.apply (resolution c r)).SameLog
      (m.committed s c (.ok r)).store.conversation := by
  have hresolved := sameLog_dispatched s (resolution c r) m.withoutCall
  exact hresolved.trans (sameLog_turnEnded s (m.withoutCall.dispatched s (resolution c r)))

theorem sameLog_committed_error (s : Surroundings σ) (c : Call) (e : Fault) (m : Moderator σ) :
    m.store.conversation.SameLog (m.committed s c (.error e)).store.conversation :=
  sameLog_turnEnded s m.withoutCall

/-- ids that differ and will not be drawn again, and clean conversations that wait -/
structure Knows (m : Moderator σ) : Prop where
  known : m.store.conversation.IsKnown m.supply
  waiters : ∀ w ∈ m.waiting, w.conversation.IsClean ∧ w.conversation.IsKnown m.supply

/-- a moderator whose conversation is clean -/
structure IsTidy (m : Moderator σ) : Prop extends Knows m where
  clean : m.store.conversation.IsClean

/-- a moderator with nothing pending but what has an id -/
structure Holds (m : Moderator σ) (id : Value) : Prop extends Knows m where
  dated : m.store.conversation.IsDated
  pending : ∀ x ∈ m.messages, x.pending = true → x.hasId id = true

/-- a moderator with nothing pending but the message of a call -/
structure IsSteady (m : Moderator σ) (c : Call) : Prop extends Holds m c.messageId where
  debate : ∀ p, c.task = .debate p → OnlyLastPending m.messages
  retry : ∀ previous, c.task = .retry previous → previous.pending = false

/-- a moderator whose conversation is clean once its run is settled: what a cancelled run leaves pending
gives way to a notice -/
structure MaySettle (m : Moderator σ) (outcome : Outcome) : Prop extends Knows m where
  clean : outcome ≠ .cancelled → m.store.conversation.IsClean

/-- a moderator that is idle and has a clean conversation, or waits with nothing pending but the
message of its call -/
def IsKept (m : Moderator σ) : Prop :=
  m.running = false ∧ m.IsTidy ∨ ∃ c, m.call = some c ∧ m.IsSteady c

namespace Knows

theorem withJournal (h : m.Knows) (j : List Entry) : (m.withJournal j).Knows :=
  ⟨h.known, h.waiters⟩

theorem of_sublist (h : m.Knows)
    (hids : (m'.messages.map (·.id)).Sublist (m.messages.map (·.id)))
    (hsupply : m'.supply = m.supply) (hwaiting : m'.waiting = m.waiting) : m'.Knows where
  known := hsupply ▸ h.known.of_sublist hids
  waiters w hw := hsupply ▸ h.waiters w (hwaiting ▸ hw)

theorem dispatched (h : m.Knows) (s : Surroundings σ) {a : Action}
    (hids : ((m.store.conversation.apply a).messages.map (·.id)).Sublist
      (m.messages.map (·.id))) : (m.dispatched s a).Knows :=
  h.of_sublist (by rw [messages_dispatched]; exact hids) (supply_dispatched s a m)
    (waiting_dispatched s a m)

theorem appended (h : m.Knows) (s : Surroundings σ) {make : String → String → Message}
    (hmake : ∀ id now, (make id now).id = .text id) : (m.appended s make).Knows where
  known := by
    rw [supply_appended]
    have hlog := sameLog_dispatched s
      (.append (make m.supply.draw.1 m.supply.timestamp)) { m with supply := m.supply.draw.2 }
    exact hlog.isKnown (h.known.append (hmake _ _))
  waiters w hw := by
    rw [waiting_appended] at hw
    rw [supply_appended]
    obtain ⟨hclean, hknown⟩ := h.waiters w hw
    exact ⟨hclean, hknown.later rfl (Nat.le_succ _)⟩

theorem dropped (h : m.Knows) (s : Surroundings σ) : (m.dispatched s .dropPending).Knows :=
  h.dispatched s (List.filter_sublist.map _)

/-- where nothing is pending, a message that is added makes the conversation clean -/
theorem added (h : m.Knows) (s : Surroundings σ) (hsettled : AllSettled m.messages)
    (make : String → String → Message)
    (hmake : ∀ id now, (make id now).id = .text id ∧ (make id now).pending = false) :
    (m.appended s make).IsTidy := by
  refine ⟨h.appended s fun id now => (hmake id now).1, ?_⟩
  have hlog := sameLog_dispatched s
    (.append (make m.supply.draw.1 m.supply.timestamp)) { m with supply := m.supply.draw.2 }
  exact hlog.isClean (Conversation.settled_append hsettled (hmake _ _).2)

theorem attachedTo (h : m.Knows) (s : Surroundings σ) {c : Conversation} (hc : c.IsClean)
    (hknown : c.IsKnown m.supply) : (m.attachedTo s c).IsTidy := by
  have hload := heeded_heeded s { m with store := { conversation := c } }
  have hlog : c.SameLog (m.attachedTo s c).store.conversation :=
    (congrArg Store.conversation hload.store :)
  have hsupply : (m.attachedTo s c).supply = m.supply := (congrArg Moderator.supply hload.same :)
  have hwaiting : (m.attachedTo s c).waiting = m.waiting := (congrArg Moderator.waiting hload.same :)
  exact ⟨⟨hsupply ▸ hlog.isKnown hknown, fun w hw => hsupply ▸ h.waiters w (hwaiting ▸ hw)⟩,
    hlog.isClean hc⟩

theorem beside (h : m.Knows) (hb : Beside m m')
    (hwaiting : ∀ w ∈ m'.waiting, w ∈ m.waiting ∨
      w.conversation.IsClean ∧ w.conversation.IsKnown m.supply) : m'.Knows where
  known := by
    rw [hb.conversation]
    exact h.known.later hb.idOf hb.drawn
  waiters w hw := by
    obtain ⟨hclean, hknown⟩ := (hwaiting w hw).elim (h.waiters w) id
    exact ⟨hclean, hknown.later hb.idOf hb.drawn⟩

theorem edited (h : m.Knows) (s : Surroundings σ) (content : Value) :
    (m.dispatched s (.setDocument content)).Knows := h.dispatched s (List.Sublist.refl _)

end Knows

/-! ## the end of a run -/

theorem allSettled_dropped (s : Surroundings σ) (m : Moderator σ) :
    AllSettled (m.dispatched s .dropPending).messages := by
  intro x hx
  rw [messages_dispatched] at hx
  simpa using (List.mem_filter.mp hx).2

namespace MaySettle

variable {outcome : Outcome}

theorem withJournal (h : m.MaySettle outcome) (j : List Entry) : (m.withJournal j).MaySettle outcome :=
  ⟨h.toKnows.withJournal j, h.clean⟩

/-- a run that is settled leaves a clean conversation -/
theorem settled (h : m.MaySettle outcome) (s : Surroundings σ) : (m.settled s outcome).IsTidy := by
  have hcleared : (m.cleared s outcome).IsTidy := by
    by_cases ho : outcome = .cancelled
    · -- the notice is the last message, and gives the conversation its time
      rw [cleared, if_pos ho]
      exact (h.toKnows.dropped s).added s (allSettled_dropped s m) _ fun _ _ => ⟨rfl, rfl⟩
    · rw [cleared, if_neg ho]
      refine ⟨h.toKnows.dropped s, ?_⟩
      exact (sameLog_dispatched s .dropPending m).isClean (h.clean ho).dropPending
  refine ⟨⟨hcleared.known, fun w hw => ?_⟩, hcleared.clean⟩
  obtain ⟨w', hw', rfl⟩ := List.mem_map.mp hw
  exact hcleared.waiters w' hw'

end MaySettle

theorem Knows.maySettle_cancelled (h : m.Knows) : m.MaySettle .cancelled := ⟨h, (absurd rfl ·)⟩

theorem IsTidy.maySettle (h : m.IsTidy) (outcome : Outcome) : m.MaySettle outcome :=
  ⟨h.toKnows, fun _ => h.clean⟩

/-! ## between two turns -/

namespace IsTidy

theorem withJournal (h : m.IsTidy) (j : List Entry) : (m.withJournal j).IsTidy :=
  ⟨h.toKnows.withJournal j, h.clean⟩

theorem appended (h : m.IsTidy) (s : Surroundings σ) (make : String → String → Message)
    (hmake : ∀ id now, (make id now).id = .text id ∧ (make id now).pending = false) :
    (m.appended s make).IsTidy := h.toKnows.added s h.clean.settled make hmake

theorem requested (h : m.IsTidy) (s : Surroundings σ) (text : String) (image : Value) :
    (m.requested s text image).IsTidy := by
  have hadded := h.appended s (fun id now => .request id now (.text text) image)
    fun _ _ => ⟨rfl, rfl⟩
  exact ⟨⟨hadded.known, hadded.waiters⟩, hadded.clean⟩

/-- a notice says that a turn that was taken once more went well -/
theorem playedBack (h : m.IsTidy) (s : Surroundings σ) {α : Type} (a : α) :
    (m.playedBack s (.ok a)).IsTidy := by
  have hnone : { m with failedStep := none }.IsTidy := ⟨⟨h.known, h.waiters⟩, h.clean⟩
  exact hnone.appended s (fun id now => .notice id now retryNotice) fun _ _ => ⟨rfl, rfl⟩

theorem beside (h : m.IsTidy) (hb : Beside m m')
    (hwaiting : ∀ w ∈ m'.waiting, w ∈ m.waiting ∨
      w.conversation.IsClean ∧ w.conversation.IsKnown m.supply) : m'.IsTidy :=
  ⟨h.toKnows.beside hb hwaiting, hb.conversation ▸ h.clean⟩

theorem edited (h : m.IsTidy) (s : Surroundings σ) (content : Value) :
    (m.dispatched s (.setDocument content)).IsTidy :=
  ⟨h.toKnows.edited s content, (sameLog_dispatched s (.setDocument content) m).isClean
    ⟨h.clean.settled, h.clean.dated⟩⟩

theorem placed (h : m.IsTidy) {sender : Sender}
    (hm' : Follows (Moderator.appended s fun id now => .placeholder id now sender) m m') :
    m'.Holds (.text m.supply.draw.1) ∧ OnlyLastPending m'.messages := by
  obtain ⟨j, k, rfl⟩ := hm'
  generalize hplace : (fun id now => Message.placeholder id now sender) = place
  have hmessages : ((m.withJournal j).appended s place).messages =
      m.messages ++ [place m.supply.draw.1 m.supply.timestamp] := messages_appended s place _
  have hdated := (sameLog_dispatched s (.append (place m.supply.draw.1 m.supply.timestamp))
    { m.withJournal j with supply := m.supply.draw.2 }).isDated (Conversation.isDated_append _ _)
  have hknows : ((m.withJournal j).appended s place).Knows :=
    (h.toKnows.withJournal j).appended s (by rw [← hplace]; exact fun _ _ => rfl)
  refine ⟨⟨hknows.withJournal k, hdated, fun x hx hp => ?_⟩, fun x hx => ?_⟩
  · rcases List.mem_append.mp (hmessages ▸ hx) with hx | hx
    · rw [h.clean.settled x hx] at hp
      cases hp
    · rw [List.mem_singleton.mp hx, ← hplace]
      exact hasId_placeholder _ _ _
  · have hbefore : x ∈ (m.messages ++ [place m.supply.draw.1 m.supply.timestamp]).dropLast :=
      hmessages ▸ hx
    rw [List.dropLast_concat] at hbefore
    exact h.clean.settled x hbefore

theorem reopened (h : m.IsTidy) (s : Surroundings σ) (previous : Message) :
    (m.reopened s previous).Holds previous.id := by
  have hsame : ((m.store.conversation.apply (.reopen previous.id)).messages.map (·.id)) =
      m.messages.map (·.id) := Conversation.ids_modify _ _ _ fun _ _ => rfl
  have hstart : { m with token := some false, running := true }.Knows := ⟨h.known, h.waiters⟩
  have hlog := sameLog_dispatched s (.reopen previous.id)
    { m with token := some false, running := true }
  refine ⟨hstart.dispatched s (hsame ▸ List.Sublist.refl _), hlog.isDated ?_, fun x hx hp => ?_⟩
  · exact h.clean.dated.modify previous.id fun _ => rfl
  · rw [show (m.reopened s previous).messages = _ from hlog.messages] at hx
    obtain ⟨y, hy, rfl⟩ := List.mem_map.mp hx
    dsimp only at hp ⊢
    split at hp
    · rename_i hhas
      rw [if_pos hhas]
      exact hhas
    · rw [h.clean.settled y hy] at hp
      cases hp

end IsTidy

namespace Holds

variable {id : Value}

theorem withJournal (h : m.Holds id) (j : List Entry) : (m.withJournal j).Holds id :=
  ⟨h.toKnows.withJournal j, h.dated, h.pending⟩

theorem atMostOne (h : m.Holds id) (hid : ∃ t, id = .text t) : AtMostOnePending m.messages := by
  obtain ⟨t, ht⟩ := hid
  exact h.known.distinct.countP_pending_le fun x hx hp => ht ▸ h.pending x hx hp

/-- what has the id is settled, and keeps its id and its time: nothing is pending any more -/
theorem tidy_of_modify (h : m.Holds id) {f : Message → Message}
    (hf : ∀ x, (f x).id = x.id ∧ (f x).timestamp = x.timestamp ∧ (f x).pending = false)
    (hlog : (m.store.conversation.modify id f).SameLog m'.store.conversation)
    (hsupply : m'.supply = m.supply) (hwaiting : m'.waiting = m.waiting) : m'.IsTidy := by
  have hids : m'.messages.map (·.id) = m.messages.map (·.id) := by
    rw [show m'.messages = _ from hlog.messages]
    exact Conversation.ids_modify _ _ _ fun x _ => (hf x).1
  have hknows : m'.Knows := h.toKnows.of_sublist (hids ▸ List.Sublist.refl _) hsupply hwaiting
  -- a message of another id was settled before
  refine ⟨hknows, fun x hx => ?_, hlog.isDated (h.dated.modify _ fun x => (hf x).2.1)⟩
  rw [show m'.store.conversation.messages = _ from hlog.messages] at hx
  obtain ⟨y, hy, rfl⟩ := List.mem_map.mp hx
  split
  · exact (hf y).2.2
  · rename_i hhas
    cases hp : y.pending with
    | false => rfl
    | true => exact absurd (h.pending y hy hp) hhas

theorem committed_ok {c : Call} (h : m.Holds c.messageId) (s : Surroundings σ) (r : Turn.Result) :
    (m.committed s c (.ok r)).IsTidy := by
  have hmodify : (m.store.conversation.modify c.messageId
      (·.resolved (.text r.text) (.int r.durationMs))).SameLog
        (m.store.conversation.apply (resolution c r)) := rfl
  exact h.tidy_of_modify (f := fun x => x.resolved (.text r.text) (.int r.durationMs))
    (fun _ => ⟨rfl, rfl, rfl⟩) (hmodify.trans (sameLog_committed_ok s c r m))
    (supply_committed s c _ m) (waiting_committed s c _ m)

theorem committed_error (h : m.Holds id) (s : Surroundings σ) (c : Call) (e : Fault) :
    (m.committed s c (.error e)).Holds id := by
  have hlog := sameLog_committed_error s c e m
  have hmessages : (m.committed s c (.error e)).messages = m.messages := hlog.messages
  refine ⟨h.toKnows.of_sublist (hmessages ▸ List.Sublist.refl _) (supply_committed s c _ m)
    (waiting_committed s c _ m), hlog.isDated h.dated, fun x hx hp => h.pending x ?_ hp⟩
  exact hmessages ▸ hx

theorem failed (h : m.Holds id) (s : Surroundings σ) (text : String) :
    (m.dispatched s (.fail id text)).IsTidy := by
  exact h.tidy_of_modify (f := fun x => x.failed text) (fun _ => ⟨rfl, rfl, rfl⟩)
    (sameLog_dispatched s (.fail id text) m) (supply_dispatched s _ m)
    (waiting_dispatched s _ m)

theorem broken {c : Call} (h : m.Holds c.messageId) (s : Surroundings σ) (e : Fault) :
    (m.broken s c e).IsTidy := by
  have hfailed := h.failed s (failureText e)
  exact ⟨⟨hfailed.known, hfailed.waiters⟩, hfailed.clean⟩

/-- it is put back as it was: it had been settled -/
theorem replaced {previous : Message} (h : m.Holds previous.id) (s : Surroundings σ)
    (htext : ∃ t, previous.id = .text t) (hsettled : previous.pending = false) :
    (m.dispatched s (.replace previous)).Knows ∧
      AllSettled (m.dispatched s (.replace previous)).messages := by
  obtain ⟨t, ht⟩ := htext
  have hids : (m.store.conversation.apply (.replace previous)).messages.map (·.id) =
      m.messages.map (·.id) := by
    refine Conversation.ids_modify _ _ _ fun x hx => ?_
    rw [Message.hasId, ht] at hx
    rw [ht, Value.eq_of_same_text hx]
  refine ⟨h.toKnows.dispatched s (hids ▸ List.Sublist.refl _), fun x hx => ?_⟩
  rw [messages_dispatched] at hx
  obtain ⟨y, hy, rfl⟩ := List.mem_map.mp hx
  split
  · exact hsettled
  · rename_i hhas
    cases hp : y.pending with
    | false => rfl
    | true => exact absurd (h.pending y hy hp) hhas

/-- a turn that was taken once more and did not go well: nothing is left pending -/
theorem mended {previous : Message} (h : m.Holds previous.id) (s : Surroundings σ)
    (htext : ∃ t, previous.id = .text t) (hsettled : previous.pending = false) (e : Fault) :
    (m.mended s previous (.error e : Except Fault Turn.Result)).MaySettle
        (retryOutcome (.error e : Except Fault Turn.Result)) ∧
      AllSettled (m.mended s previous (.error e : Except Fault Turn.Result)).messages := by
  obtain ⟨hknows, hall⟩ := h.replaced s htext hsettled
  have hfailed := h.failed s (failureText e)
  cases e with
  | cancelled => exact ⟨hknows.maySettle_cancelled, hall⟩
  | aborted => exact ⟨hknows.maySettle_cancelled, hall⟩
  | _ => exact ⟨hfailed.maySettle _, hfailed.clean.settled⟩

end Holds

namespace IsSteady

variable {c : Call}

theorem beside (h : m.IsSteady c) (hb : Beside m m')
    (hwaiting : ∀ w ∈ m'.waiting, w ∈ m.waiting ∨
      w.conversation.IsClean ∧ w.conversation.IsKnown m.supply) : m'.IsSteady c := by
  have hmessages : m'.messages = m.messages := congrArg Conversation.messages hb.conversation
  refine ⟨⟨h.toKnows.beside hb hwaiting, hb.conversation ▸ h.dated, ?_⟩, fun p hp => ?_, h.retry⟩
  · rw [hmessages]
    exact h.pending
  · rw [hmessages]
    exact h.debate p hp

theorem edited (h : m.IsSteady c) (s : Surroundings σ) (content : Value) :
    (m.dispatched s (.setDocument content)).IsSteady c := by
  have hlog := sameLog_dispatched s (.setDocument content) m
  have hmessages : (m.dispatched s (.setDocument content)).messages = m.messages := hlog.messages
  refine ⟨⟨h.toKnows.edited s content, hlog.isDated h.dated, ?_⟩, fun p hp => ?_, h.retry⟩
  · rw [hmessages]
    exact h.pending
  · rw [hmessages]
    exact h.debate p hp

/-- another conversation is attached while the call waits: nothing is pending any more -/
theorem of_tidy (h : m.IsSteady c) (h' : m'.IsTidy) : m'.IsSteady c where
  toKnows := h'.toKnows
  dated := h'.clean.dated
  pending x hx hp := by
    rw [h'.clean.settled x hx] at hp
    cases hp
  debate _ _ := h'.clean.settled.onlyLast
  retry := h.retry

end IsSteady

end Moderator

end Debate
