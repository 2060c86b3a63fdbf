import Debate.Proofs.Assuring
import Debate.Proofs.Tidy

/-!
# What the listeners have reported

While the writer and the console of a command line report alike, their records are what is on the screen.
That they go on so depends on what they know: nothing of ids that are still to be drawn, the same of
pending messages, and the texts of settled ones once a conversation was shown. A change of the
conversation leaves messages of which they know less; these are due, and are reported when it is shown.

* `Reported`             the records of a thread log, and what was printed meanwhile;
* `watching`             the listeners of a command line, of whom it is remembered whether one failed;
* `Moderator.IsTallied`  listeners that have reported alike, and can go on so;
* `Moderator.IsPrimed`, `Moderator.InAccord`   such listeners before and after they are shown a conversation;
* `IsPrimed.presented`   a conversation is shown;
* `InAccord.modified`, `InAccord.thinned`, `InAccord.added`   changes of it.
-/

namespace Debate

open Debate.Files Debate.Transcript Debate.CommandLine

/-! ## what was reported -/

/-- what the listeners of a command line have reported: the thread log has grown by records, and their
messages were printed, in order; all of them were settled, and those that were loaded had another text
than when they were loaded -/
structure Reported (log : List UInt8) (loaded : List Message) (a : Audience) (journal : List Entry)
    (rs : List Record) : Prop where
  log : a.scribe.log = log ++ rs.flatMap Record.bytes
  screen : Journal.screen journal = rs.map fun r => a.console.shown r.message
  settled : ∀ r ∈ rs, r.message.pending = false
  changed : ∀ r ∈ rs, ∀ x ∈ loaded, r.message.id.isAmong [x.id] = true →
    r.message.text.isAmong [x.text] = false

/-- the listeners of a command line, of whom it is remembered whether one failed -/
abbrev CommandLine.watching (environment : Environment) : Surroundings (Audience × Bool) :=
  (Session.surroundings environment).watched

theorem CommandLine.Console.shown_congr {k k' : Console} (h : k'.settings = k.settings) (x : Message) :
    k'.shown x = k.shown x := by
  rw [Console.shown, Console.shown, Console.label, Console.label, h]

/-- ids that are still to be drawn differ from those of the messages -/
theorem Supply.IsFresh.apart {u : Supply} {xs : List Message} (h : u.IsFresh xs) {n : Nat}
    (hn : u.drawn ≤ n) {x : Message} (hx : x ∈ xs) : (Value.text (u.idOf n)).Apart x.id := by
  rw [Value.apart_text_iff]
  intro hid
  have hunused := h.unused n hn x hx
  rw [Message.hasId, hid, Value.same_text_self] at hunused
  cases hunused

namespace Moderator

variable {environment : Environment} {log : List UInt8} {loaded : List Message}
  {m m' : Moderator (Audience × Bool)}

/-- no listener has failed -/
def Fine (a : Audience × Bool) : Prop := a.2 = false

/-- a moderator whose listeners have reported alike: they know nothing of ids that are still to be drawn,
and the same of each message that is pending -/
structure IsTallied (log : List UInt8) (loaded : List Message) (m : Moderator (Audience × Bool)) :
    Prop where
  reported : ∃ rs, Reported log loaded m.audience.1 m.journal rs
  seen : ∀ x ∈ loaded, (x.id, x.text) ∈ m.audience.1.console.seen
  apart : (m.messages.map (·.id)).Pairwise Value.Apart
  fresh : m.supply.IsFresh m.messages
  unknown : ∀ k, m.supply.drawn ≤ k →
    Unknown m.audience.1.writer m.audience.1.console (.text (m.supply.idOf k))
  whole : ∀ x ∈ m.messages, x.text.same x.text = true
  even : ∀ x ∈ m.messages, x.pending = true → Even m.audience.1.writer m.audience.1.console x.id

/-- such a moderator whose listeners know the text of each message that is settled, or the same of the
message: its conversation is to be shown -/
structure IsPrimed (log : List UInt8) (loaded : List Message) (m : Moderator (Audience × Bool)) : Prop
    extends m.IsTallied log loaded where
  due : ∀ x ∈ m.messages, x.pending = false → Told m.audience.1.writer m.audience.1.console x ∨
    Even m.audience.1.writer m.audience.1.console x.id

/-- such a moderator whose listeners know the text of each message that is settled: its conversation was
shown -/
structure InAccord (log : List UInt8) (loaded : List Message) (m : Moderator (Audience × Bool)) : Prop
    extends m.IsTallied log loaded where
  told : ∀ x ∈ m.messages, x.pending = false → Told m.audience.1.writer m.audience.1.console x

/-! ## what the listeners see -/

/-- what the listeners do when they are shown a conversation and none of them fails -/
theorem watched_hear {now : Instant} {c : Conversation} {a : Audience × Bool}
    (h : Fine ((watching environment).hear now c a).audience) :
    Fine a ∧ (a.1.console.hear now c.messages).1 = none ∧ ∃ d,
      d.tree.bytesAt a.1.writer.threadPath.place =
        a.1.scribe.log ++ (a.1.writer.recording c.messages).2.flatMap Record.bytes ∧
      (watching environment).hear now c a = {
        audience := ({
          writer := a.1.writer.heard c, console := (a.1.console.hear now c.messages).2.1
          disk := d }, false)
        entries := (a.1.console.hear now c.messages).2.2 } := by
  have hheard : (watching environment).hear now c a =
      { Audience.hear now c a.1 with
        audience := ((Audience.hear now c a.1).audience,
          a.2 || (Audience.hear now c a.1).fault.isSome) } := rfl
  rw [Fine, hheard] at h
  obtain ⟨hfine, hfault⟩ := Bool.or_eq_false_iff.mp h
  rcases hw : a.1.writer.hear a.1.disk c with ⟨e | ⟨⟩, w, d⟩
  · rw [hear_error hw] at hfault
    cases hfault
  · obtain ⟨hwriter, hlog, -⟩ := Writer.effect_of_hear hw
    rw [hear_ok hw] at hfault
    have hnone : (a.1.console.hear now c.messages).1 = none := by simpa using hfault
    refine ⟨hfine, hnone, d, hlog, ?_⟩
    rw [hheard, hear_ok hw, hfine, hnone, hwriter]
    rfl

/-- listeners that are shown a conversation, and do not fail, have reported alike after it -/
theorem IsPrimed.presented (h : m.IsPrimed log loaded)
    (hfine : Fine (m.presented (watching environment)).audience) :
    (m.presented (watching environment)).InAccord log loaded := by
  obtain ⟨-, hnone, d, hlog, hheard⟩ := watched_hear hfine
  have hdue : ∀ x ∈ m.messages, IsDue m.audience.1.writer m.audience.1.console x := fun x hx hpending =>
    ⟨h.whole x hx, h.due x hx hpending⟩
  have hreports := reports_hear m.supply.now h.apart hdue hnone
  obtain ⟨rs, hrs⟩ := h.reported
  have hpresented : m.presented (watching environment) = { m with
      audience := ({
        writer := m.audience.1.writer.heard m.store.conversation
        console := (m.audience.1.console.hear m.supply.now m.messages).2.1
        disk := d }, false)
      shown := m.shown + 1
      journal := m.journal ++ (m.audience.1.console.hear m.supply.now m.messages).2.2 } := by
    rw [Moderator.presented, hheard]
  rw [hpresented]
  constructor
  · constructor
    · refine ⟨rs ++ (m.audience.1.writer.recording m.messages).2, ?_, ?_, ?_, ?_⟩
      · rw [List.flatMap_append, ← List.append_assoc, ← hrs.log, Scribe.log]
        dsimp only [Audience.scribe]
        rw [Writer.threadPath, Writer.run_heard, ← Writer.threadPath]
        exact hlog
      · rw [Journal.screen_append, hrs.screen, hreports.screen, List.map_append]
        simp only [Console.shown_congr hreports.settings]
      · exact List.forall_mem_append.mpr ⟨hrs.settled, hreports.settled⟩
      · refine List.forall_mem_append.mpr ⟨hrs.changed, fun r hr x hx hid => ?_⟩
        have hnews := List.any_eq_false.mp (hreports.news r hr) _ (h.seen x hx)
        rw [hid, Bool.true_and] at hnews
        exact Bool.eq_false_iff.mpr hnews
    · exact fun x hx => hreports.seen (h.seen x hx)
    · exact h.apart
    · exact h.fresh
    · exact fun n hn => (hreports.others _ fun x hx _ => (h.fresh.apart hn hx).1).unknown
        (h.unknown n hn)
    · exact h.whole
    · intro x hx hpending
      refine (hreports.others x.id fun y hy hsettled => ?_).even (h.even x hx hpending)
      refine Bool.eq_false_iff.mpr fun hid => ?_
      obtain rfl := Value.eq_of_isAmong h.apart hx hy hid
      rw [hpending] at hsettled
      cases hsettled
  · exact fun x hx hpending =>
      ⟨(hreports.told x hx hpending).recorded, (hreports.told x hx hpending).shown⟩

/-! ## what is still to be reported -/

theorem reported_aside {rs : List Record} (h : Reported log loaded m.audience.1 m.journal rs)
    (ha : Aside m m') : Reported log loaded m'.audience.1 m'.journal rs := by
  rw [ha.audience]
  refine ⟨h.log, ?_, h.settled, h.changed⟩
  rw [ha.screen]
  exact h.screen

theorem IsTallied.aside (h : m.IsTallied log loaded) (ha : Aside m m') : m'.IsTallied log loaded := by
  obtain ⟨rs, hrs⟩ := h.reported
  constructor
  · exact ⟨rs, reported_aside hrs ha⟩
  · rw [ha.audience]
    exact h.seen
  · rw [ha.messages]
    exact h.apart
  · rw [ha.messages]
    exact h.fresh.later ha.idOf ha.drawn
  · intro n hn
    rw [ha.audience, ha.idOf]
    exact h.unknown n (Nat.le_trans ha.drawn hn)
  · rw [ha.messages]
    exact h.whole
  · rw [ha.messages, ha.audience]
    exact h.even

/-- the moderator after a change of the conversation that the listeners were not shown yet -/
def acted (m : Moderator (Audience × Bool)) (a : Action) : Moderator (Audience × Bool) :=
  { m with store := m.store.dispatch a }

namespace InAccord

theorem aside (h : m.InAccord log loaded) (ha : Aside m m') : m'.InAccord log loaded where
  toIsTallied := h.toIsTallied.aside ha
  told := by
    rw [ha.messages, ha.audience]
    exact h.told

/-- messages are changed of which both listeners know the same -/
theorem modified (h : m.InAccord log loaded) {a : Action} {id : Value} {f : Message → Message}
    (ha : (m.acted a).messages = (m.store.conversation.modify id f).messages)
    (hf : ∀ x ∈ m.messages, x.hasId id = true → (f x).id = x.id ∧
      Even m.audience.1.writer m.audience.1.console x.id ∧ (f x).text.same (f x).text = true) :
    (m.acted a).IsPrimed log loaded := by
  have hids : (m.acted a).messages.map (·.id) = m.messages.map (·.id) := by
    rw [ha, messages, Conversation.modify, List.map_map, List.map_inj_left]
    intro x hx
    dsimp only [Function.comp_apply]
    split
    · exact (hf x hx ‹_›).1
    · rfl
  have hchanged : ∀ y ∈ (m.acted a).messages, ∃ x ∈ m.messages,
      (x.hasId id = true ∧ y = f x) ∨ y = x := by
    intro y hy
    rw [ha] at hy
    obtain ⟨x, hx, rfl⟩ := List.mem_map.mp hy
    refine ⟨x, hx, ?_⟩
    split
    · exact .inl ⟨‹_›, rfl⟩
    · exact .inr rfl
  constructor
  · constructor
    · exact h.reported
    · exact h.seen
    · rw [hids]
      exact h.apart
    · exact h.fresh.of_sublist (hids ▸ List.Sublist.refl _)
    · exact h.unknown
    · intro y hy
      obtain ⟨x, hx, ⟨hid, rfl⟩ | rfl⟩ := hchanged y hy
      · exact (hf x hx hid).2.2
      · exact h.whole _ hx
    · intro y hy hpending
      obtain ⟨x, hx, ⟨hid, rfl⟩ | rfl⟩ := hchanged y hy
      · rw [(hf x hx hid).1]
        exact (hf x hx hid).2.1
      · exact h.even _ hx hpending
  · intro y hy hpending
    obtain ⟨x, hx, ⟨hid, rfl⟩ | rfl⟩ := hchanged y hy
    · rw [(hf x hx hid).1]
      exact .inr (hf x hx hid).2.1
    · exact .inl (h.told _ hx hpending)

/-- messages are left out -/
theorem thinned (h : m.InAccord log loaded) {a : Action}
    (ha : (m.acted a).messages.Sublist m.messages) : (m.acted a).IsPrimed log loaded where
  reported := h.reported
  seen := h.seen
  apart := h.apart.sublist (ha.map _)
  fresh := h.fresh.of_sublist (ha.map _)
  unknown := h.unknown
  whole x hx := h.whole x (ha.subset hx)
  even x hx := h.even x (ha.subset hx)
  due x hx hpending := .inl (h.told x (ha.subset hx) hpending)

end InAccord

/-- an id that was drawn for a new message -/
structure IsSpare (id : String) (m : Moderator (Audience × Bool)) : Prop where
  unused : ∀ x ∈ m.messages, x.id ≠ .text id
  unknown : Unknown m.audience.1.writer m.audience.1.console (.text id)
  past : ∀ n, m.supply.drawn ≤ n → m.supply.idOf n ≠ id

theorem IsSpare.aside {id : String} (h : m.IsSpare id) (ha : Aside m m') : m'.IsSpare id where
  unused := by
    rw [ha.messages]
    exact h.unused
  unknown := by
    rw [ha.audience]
    exact h.unknown
  past n hn := by
    rw [ha.idOf]
    exact h.past n (Nat.le_trans ha.drawn hn)

theorem InAccord.isSpare_draw (h : m.InAccord log loaded) :
    { m with supply := m.supply.draw.2 }.IsSpare m.supply.draw.1 where
  unused x hx := Value.apart_text_iff.mp (h.fresh.apart (Nat.le_refl _) hx)
  unknown := h.unknown _ (Nat.le_refl _)
  past n hn hid := by
    have hsame := h.fresh.distinct n m.supply.drawn (Nat.le_of_succ_le hn) (Nat.le_refl _) hid
    exact Nat.not_succ_le_self _ (hsame ▸ hn)

/-- a message with a new id is added -/
theorem InAccord.added (h : m.InAccord log loaded) {id : String} (hspare : m.IsSpare id) {x : Message}
    (hid : x.id = .text id) (htext : x.text.same x.text = true) :
    (m.acted (.append x)).IsPrimed log loaded := by
  have hmessages : (m.acted (.append x)).messages = m.messages ++ [x] := rfl
  have hunknown : Unknown m.audience.1.writer m.audience.1.console x.id := hid ▸ hspare.unknown
  constructor
  · constructor
    · exact h.reported
    · exact h.seen
    · rw [hmessages, List.map_append, List.pairwise_append]
      refine ⟨h.apart, List.pairwise_singleton _ _, fun v hv w hw => ?_⟩
      obtain ⟨y, hy, rfl⟩ := List.mem_map.mp hv
      rw [List.mem_singleton.mp hw]
      change y.id.Apart x.id
      rw [hid]
      exact (Value.apart_text_iff.mpr (hspare.unused y hy)).symm
    · refine ⟨h.fresh.distinct, fun n hn y hy => ?_⟩
      rcases List.mem_append.mp hy with hy | hy
      · exact h.fresh.unused n hn y hy
      · rw [List.mem_singleton.mp hy, Message.hasId, hid, Value.same_text]
        exact beq_false_of_ne (hspare.past n hn).symm
    · exact h.unknown
    · exact List.forall_mem_append.mpr ⟨h.whole, List.forall_mem_singleton.mpr htext⟩
    · exact List.forall_mem_append.mpr ⟨h.even, List.forall_mem_singleton.mpr fun _ => hunknown.even⟩
  · exact List.forall_mem_append.mpr ⟨fun y hy hpending => .inl (h.told y hy hpending),
      List.forall_mem_singleton.mpr fun _ => .inr hunknown.even⟩

end Moderator

end Debate
