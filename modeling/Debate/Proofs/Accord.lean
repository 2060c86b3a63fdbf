import Debate.Proofs.Scribes
import Mathlib.Data.List.Pairwise

/-!
# The writer and the console in accord

Both listeners report a message that is settled with a text that they do not know it to have, and they
know it by different means: the writer by the ids that it recorded and the text that each of them had
last, the console by all ids and texts that it showed. About a message of which they know the same they
decide alike; afterwards both know its text, though perhaps not the same of it any longer.

* `Value.Apart`          keys that differ;
* `Writer.knows`, `Console.knows`   whether a listener knows a message of some id to have a text;
* `Even`                 an id of which both know the same;
* `Told`                 a message whose text both know;
* `Reports`              what both make of messages;
* `reports_hear`         they report the same if they know the same of each, or its text;
* `even_start`           listeners that start know the same of each message.
-/

namespace Debate

open Debate.Transcript

/-! ## keys -/

namespace Value

/-- two keys that differ, whichever of them is looked for -/
def Apart (v w : Value) : Prop := v.isAmong [w] = false ∧ w.isAmong [v] = false

theorem Apart.symm {v w : Value} (h : v.Apart w) : w.Apart v := ⟨h.2, h.1⟩

theorem isAmong_self (v : Value) : v.isAmong [v] = true := by simp [isAmong]

theorem isAmong_singleton (v w : Value) : v.isAmong [w] = (decide (w = v) || w.same v) := by
  simp [isAmong]

theorem apart_text_iff {t : String} {v : Value} : (Value.text t).Apart v ↔ v ≠ .text t := by
  have hleft : (Value.text t).isAmong [v] = true ↔ v = .text t := by
    rw [isAmong_text_iff, List.mem_singleton, eq_comm]
  have hright : v.isAmong [.text t] = true ↔ v = .text t := by
    rw [isAmong_singleton, Bool.or_eq_true, decide_eq_true_iff, text_same_iff, eq_comm, or_self]
  rw [Apart, Bool.eq_false_iff, Bool.eq_false_iff, ne_eq, ne_eq, hleft, hright, and_self]

/-- a key is equal to itself, unless it is not a number -/
theorem same_self_of_isKey {v : Value} (hkey : v.isKey = true) (hv : v ≠ .float .undefined) :
    v.same v = true := by
  cases v with
  | null => rw [same]
  | text t => exact same_text_self t
  | list _ => cases hkey
  | object _ => cases hkey
  | float x => cases x <;> simp_all [same, sameNumber, ratio?]
  | _ => simp [same, sameNumber, ratio?]

/-- among messages whose ids differ an id finds nothing but its own message -/
theorem eq_of_isAmong {ms : List Message} (h : (ms.map (·.id)).Pairwise Apart) {x y : Message}
    (hx : x ∈ ms) (hy : y ∈ ms) (hid : x.id.isAmong [y.id] = true) : x = y := by
  have : Std.Symm fun x y : Message => x.id.Apart y.id := ⟨fun _ _ => Apart.symm⟩
  by_contra hne
  have hapart := (List.pairwise_map.mp h).forall hx hy hne
  exact Bool.false_ne_true (hapart.1.symm.trans hid)

end Value

/-- what is printed among entries, each text by itself -/
def Journal.screen (es : List Entry) : List String :=
  es.filterMap fun e =>
    match e with
    | .printed text => some text
    | _ => none

theorem Journal.screen_append (es fs : List Entry) : screen (es ++ fs) = screen es ++ screen fs :=
  List.filterMap_append

/-! ## what is known -/

/-- whether a message of some id counts as recorded with a text -/
def Transcript.Writer.knows (w : Writer) (id t : Value) : Bool :=
  id.isAmong w.written && ((w.textOf? id).getD .null).same t

namespace CommandLine

/-- whether a message of some id counts as shown with a text -/
def Console.knows (k : Console) (id t : Value) : Bool :=
  k.seen.any fun x => id.isAmong [x.1] && t.isAmong [x.2]

variable {w w' : Writer} {k k' : Console} {x m : Message} {ms : List Message} {id : Value}

theorem isNews_eq (w : Writer) (m : Message) : w.isNews m = (!m.pending && !w.knows m.id m.text) := rfl

theorem hasShown_eq (k : Console) (m : Message) : k.hasShown m = k.knows m.id m.text := rfl

theorem knows_remember (w : Writer) (m : Message) (id t : Value) :
    (w.remember m).knows id t = if id.isAmong [m.id] then m.text.same t else w.knows id t := by
  rw [Writer.knows, Writer.textOf?_remembered]
  change (id.isAmong (m.id :: w.written) && _) = _
  rw [Value.isAmong_cons]
  split
  · rename_i h
    rw [h, Bool.true_or, Bool.true_and, Option.getD_some]
  · rename_i h
    rw [Bool.eq_false_iff.mpr h, Bool.false_or, Writer.knows]

theorem knows_shown (k : Console) (m : Message) (id t : Value) :
    (k.remember m).knows id t = (id.isAmong [m.id] && t.isAmong [m.text] || k.knows id t) := rfl

/-- an id of which the writer and the console know the same -/
def Even (w : Writer) (k : Console) (id : Value) : Prop := ∀ t, w.knows id t = k.knows id t

/-- an id of which neither knows anything -/
def Unknown (w : Writer) (k : Console) (id : Value) : Prop :=
  ∀ t, w.knows id t = false ∧ k.knows id t = false

theorem Unknown.even (h : Unknown w k id) : Even w k id := fun t => (h t).1.trans (h t).2.symm

/-- a message whose text both know -/
structure Told (w : Writer) (k : Console) (x : Message) : Prop where
  recorded : w.knows x.id x.text = true
  shown : k.knows x.id x.text = true

/-- two pairs of listeners that know the same of an id -/
structure Alike (w w' : Writer) (k k' : Console) (id : Value) : Prop where
  writer : ∀ t, w'.knows id t = w.knows id t
  console : ∀ t, k'.knows id t = k.knows id t

namespace Alike

theorem refl (w : Writer) (k : Console) (id : Value) : Alike w w k k id := ⟨fun _ => rfl, fun _ => rfl⟩

theorem trans {w'' : Writer} {k'' : Console} (h : Alike w w' k k' id) (h' : Alike w' w'' k' k'' id) :
    Alike w w'' k k'' id :=
  ⟨fun t => (h'.writer t).trans (h.writer t), fun t => (h'.console t).trans (h.console t)⟩

theorem even (h : Alike w w' k k' id) (he : Even w k id) : Even w' k' id := fun t => by
  rw [h.writer, h.console, he]

theorem unknown (h : Alike w w' k k' id) (hu : Unknown w k id) : Unknown w' k' id := fun t => by
  rw [h.writer, h.console]
  exact hu t

theorem told (h : Alike w w' k k' x.id) (ht : Told w k x) : Told w' k' x :=
  ⟨(h.writer _).trans ht.recorded, (h.console _).trans ht.shown⟩

/-- to remember a message changes nothing of others -/
theorem remember (h : id.isAmong [m.id] = false) :
    Alike w (w.remember m) k (k.remember m) id where
  writer t := by rw [knows_remember, h, if_neg Bool.false_ne_true]
  console t := by rw [knows_shown, h, Bool.false_and, Bool.false_or]

end Alike

/-- after a message was remembered both know its text -/
theorem told_remember (h : m.text.same m.text = true) : Told (w.remember m) (k.remember m) m where
  recorded := by rw [knows_remember, Value.isAmong_self, if_pos rfl, h]
  shown := by rw [knows_shown, Value.isAmong_self, Value.isAmong_self, Bool.true_and, Bool.true_or]

/-! ## what is reported -/

/-- a message that is settled can be reported alike: its text is equal to itself, and either both know
it already or they know the same of the message -/
def IsDue (w : Writer) (k : Console) (x : Message) : Prop :=
  x.pending = false → x.text.same x.text = true ∧ (Told w k x ∨ Even w k x.id)

theorem Alike.isDue (h : Alike w w' k k' x.id) (hx : IsDue w k x) : IsDue w' k' x := fun hpending =>
  ⟨(hx hpending).1, (hx hpending).2.imp h.told h.even⟩

/-- a message is news to the writer if it was not shown before -/
theorem IsDue.isNews_iff (h : IsDue w k x) (hpending : x.pending = false) :
    w.isNews x = true ↔ k.hasShown x = false := by
  rw [isNews_eq, hasShown_eq, hpending, Bool.not_false, Bool.true_and, Bool.not_eq_true']
  rcases (h hpending).2 with htold | heven
  · rw [htold.recorded, htold.shown]
  · rw [heven]

/-- what the writer and the console make of messages: the records of one are what the other shows, all
of them of messages that are settled and were not shown with this text; then both know the texts of
what is settled, and of others what they knew before -/
structure Reports (ms : List Message) (w w' : Writer) (k k' : Console) (rs : List Record)
    (es : List Entry) : Prop where
  screen : Journal.screen es = rs.map fun r => k.shown r.message
  settled : ∀ r ∈ rs, r.message.pending = false
  news : ∀ r ∈ rs, k.hasShown r.message = false
  told : ∀ x ∈ ms, x.pending = false → Told w' k' x
  others : ∀ id, (∀ x ∈ ms, x.pending = false → id.isAmong [x.id] = false) → Alike w w' k k' id
  settings : k'.settings = k.settings
  seen : k.seen ⊆ k'.seen

/-- a message is passed over: it is pending, or both know its text -/
theorem Reports.skip {rs : List Record} {es : List Entry} (h : Reports ms w w' k k' rs es)
    (hapart : ∀ x ∈ ms, m.id.Apart x.id) (hm : m.pending = false → Told w k m) :
    Reports (m :: ms) w w' k k' rs es where
  screen := h.screen
  settled := h.settled
  news := h.news
  told := List.forall_mem_cons.mpr
    ⟨fun hpending => (h.others m.id fun x hx _ => (hapart x hx).1).told (hm hpending), h.told⟩
  others id hid := h.others id fun x hx => hid x (List.mem_cons_of_mem m hx)
  settings := h.settings
  seen := h.seen

/-- a message is reported -/
theorem Reports.report {rs : List Record} {es : List Entry} {now : Instant}
    (h : Reports ms (w.remember m) w' (k.remember m) k' rs es)
    (hapart : ∀ x ∈ ms, m.id.Apart x.id) (hpending : m.pending = false)
    (htext : m.text.same m.text = true) (hnews : k.hasShown m = false) (revision : Bool) :
    Reports (m :: ms) w w' k k' (⟨m, revision⟩ :: rs) (k.entries now m ++ es) where
  screen := by
    rw [Journal.screen_append, h.screen]
    rfl
  settled := List.forall_mem_cons.mpr ⟨hpending, h.settled⟩
  news := List.forall_mem_cons.mpr ⟨hnews, fun r hr => by
    -- what was not shown after the message was not shown before it
    have hafter := h.news r hr
    rw [hasShown_eq, knows_shown, Bool.or_eq_false_iff] at hafter
    exact hafter.2⟩
  told := List.forall_mem_cons.mpr ⟨fun _ =>
    (h.others m.id fun x hx _ => (hapart x hx).1).told (told_remember htext), h.told⟩
  others id hid := (Alike.remember (hid m List.mem_cons_self hpending)).trans
    (h.others id fun x hx => hid x (List.mem_cons_of_mem m hx))
  settings := h.settings
  seen := fun y hy => h.seen (List.mem_cons_of_mem _ hy)

/-- both report the same of messages whose ids differ, and of which they know the same or the texts -/
theorem reports_hear (now : Instant) (hapart : (ms.map (·.id)).Pairwise Value.Apart)
    (hdue : ∀ x ∈ ms, IsDue w k x) (hfault : (k.hear now ms).1 = none) :
    Reports ms w (w.recording ms).1 k (k.hear now ms).2.1 (w.recording ms).2 (k.hear now ms).2.2 := by
  induction ms generalizing w k with
  | nil =>
    exact ⟨rfl, nofun, nofun, nofun, fun id _ => .refl w k id, rfl, fun _ h => h⟩
  | cons m ms ih =>
    obtain ⟨hfirst, htail⟩ := List.pairwise_cons.mp hapart
    have hothers : ∀ x ∈ ms, m.id.Apart x.id := fun x hx => hfirst _ (List.mem_map_of_mem hx)
    obtain ⟨hm, hms⟩ := List.forall_mem_cons.mp hdue
    cases hpending : m.pending with
    | true =>
      have hold : w.isNews m ≠ true := by simp [isNews_eq, hpending]
      rw [Console.hear, if_pos hpending] at hfault ⊢
      rw [Writer.recording_cons_of_old hold]
      refine (ih htail hms hfault).skip hothers fun h => ?_
      rw [hpending] at h
      cases h
    | false =>
      have hnews := hm.isNews_iff hpending
      rw [Console.hear, if_neg (by simp [hpending])] at hfault ⊢
      cases hkey : Console.messageFault? m with
      | some e =>
        rw [hkey] at hfault
        cases hfault
      | none =>
        rw [hkey] at hfault
        dsimp only at hfault ⊢
        cases hshown : k.hasShown m with
        | true =>
          have hold : w.isNews m ≠ true := by simp [hnews, hshown]
          rw [hshown, if_pos rfl] at hfault
          rw [if_pos rfl, Writer.recording_cons_of_old hold]
          refine (ih htail hms hfault).skip hothers fun _ => ⟨?_, hshown⟩
          simpa [isNews_eq, hpending] using hold
        | false =>
          rw [hshown, if_neg Bool.false_ne_true] at hfault
          rw [if_neg Bool.false_ne_true, Writer.recording_cons_of_news (hnews.mpr hshown)]
          have hdue' : ∀ x ∈ ms, IsDue (w.remember m) (k.remember m) x := fun x hx =>
            (Alike.remember (hothers x hx).2).isDue (hms x hx)
          exact (ih htail hdue' hfault).report hothers hpending (hm hpending).1 hshown _

/-! ## listeners that start -/

section

variable {c : Conversation} {settings : Settings} {run : Files.Path}

theorem knows_writer_start (hapart : (c.messages.map (·.id)).Pairwise Value.Apart)
    (hx : x ∈ c.settled) (t : Value) : (Writer.start run c).knows x.id t = x.text.same t := by
  have hmem : x ∈ c.messages := (List.mem_filter.mp hx).1
  have hwritten : x.id.isAmong (Writer.start run c).written = true :=
    List.any_eq_true.mpr ⟨x.id, List.mem_map_of_mem hx, by rw [decide_eq_true rfl, Bool.true_or]⟩
  have hpair : (x.id, x.text) ∈ (Writer.start run c).texts :=
    List.mem_map_of_mem (f := fun m : Message => (m.id, m.text)) (List.mem_reverse.mpr hmem)
  have hfound : (Writer.start run c).textOf? x.id = some x.text := by
    have hsome : ((Writer.start run c).texts.find? fun t => x.id.isAmong [t.1]).isSome = true :=
      List.find?_isSome.mpr ⟨_, hpair, Value.isAmong_self x.id⟩
    obtain ⟨y, hy⟩ := Option.isSome_iff_exists.mp hsome
    obtain ⟨z, hz, rfl⟩ := List.mem_map.mp (List.mem_of_find?_eq_some hy)
    have hid : x.id.isAmong [z.id] = true := by simpa using List.find?_some hy
    obtain rfl := Value.eq_of_isAmong hapart hmem (List.mem_reverse.mp hz) hid
    rw [Writer.textOf?, hy]
    rfl
  rw [Writer.knows, hwritten, hfound, Bool.true_and, Option.getD_some]

theorem knows_console_start (hapart : (c.messages.map (·.id)).Pairwise Value.Apart)
    (hx : x ∈ c.messages) (htext : x.text.same x.text = true) (t : Value) :
    (Console.start settings c).knows x.id t = x.text.same t := by
  have hself : t.isAmong [x.text] = x.text.same t := by
    rw [Value.isAmong_singleton]
    by_cases h : x.text = t
    · rw [← h, htext, Bool.or_true]
    · rw [decide_eq_false h, Bool.false_or]
  rw [← hself, Bool.eq_iff_iff, Console.knows, List.any_eq_true]
  constructor
  · rintro ⟨_, hseen, hfound⟩
    obtain ⟨y, hy, rfl⟩ := List.mem_map.mp hseen
    obtain ⟨hid, ht⟩ := Bool.and_eq_true_iff.mp hfound
    obtain rfl := Value.eq_of_isAmong hapart hx hy hid
    exact ht
  · intro ht
    exact ⟨(x.id, x.text), List.mem_map_of_mem hx, by rw [Value.isAmong_self, ht, Bool.true_and]⟩

/-- listeners that start know the same of each message that is settled, and its text -/
theorem even_start (hapart : (c.messages.map (·.id)).Pairwise Value.Apart) (hx : x ∈ c.settled)
    (htext : x.text.same x.text = true) :
    Even (.start run c) (.start settings c) x.id ∧ Told (.start run c) (.start settings c) x := by
  have hwriter : ∀ t, (Writer.start run c).knows x.id t = x.text.same t := knows_writer_start hapart hx
  have hconsole : ∀ t, (Console.start settings c).knows x.id t = x.text.same t :=
    knows_console_start hapart (List.mem_filter.mp hx).1 htext
  exact ⟨fun t => (hwriter t).trans (hconsole t).symm, (hwriter _).trans htext, (hconsole _).trans htext⟩

/-- they know nothing of other ids -/
theorem unknown_start (hid : ∀ x ∈ c.messages, id.isAmong [x.id] = false) :
    Unknown (.start run c) (.start settings c) id := by
  refine fun t => ⟨Bool.and_eq_false_imp.mpr fun h => ?_, List.any_eq_false.mpr ?_⟩
  · obtain ⟨v, hv, hsame⟩ := List.any_eq_true.mp h
    obtain ⟨x, hx, rfl⟩ := List.mem_map.mp hv
    have hfound := hid x (List.mem_filter.mp hx).1
    rw [Value.isAmong_singleton, hsame] at hfound
    cases hfound
  · rintro _ hseen
    obtain ⟨x, hx, rfl⟩ := List.mem_map.mp hseen
    simp [hid x hx]

end

end CommandLine

end Debate
