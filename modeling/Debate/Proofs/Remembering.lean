import Debate.Proofs.Leaving
import Debate.Proofs.Outcomes
import Debate.Proofs.Records
import Debate.Transcript.Writer

/-!
# What a writer remembers and writes

A writer remembers by itself which messages were recorded, and which texts messages had when it last
looked. It sees the conversation after each change, and no change by itself. Still what it writes
depends on nothing but what is known from its log: it adds the news, and keeps the notepad in a file
from the first change on.

* `Message.IsTextual`         a message whose id and text are texts;
* `Knows`                     a writer that remembers what is known;
* `knows_start`               so does a writer that starts;
* `Writer.of_hear`            what a writer adds to its log when it is shown a conversation;
* `Writer.notepad_of_hear`    what becomes of the notepad then.
-/

namespace Debate

open Debate.Files Debate.Text

/-- a message whose id and text are texts -/
structure Message.IsTextual (m : Message) : Prop where
  id : ∃ s, m.id = .text s
  text : ∃ t, m.text = .text t

namespace Value

theorem isAmong_text_iff {s : String} {vs : List Value} :
    (Value.text s).isAmong vs = true ↔ .text s ∈ vs := by
  rw [isAmong, List.any_eq_true]
  constructor
  · rintro ⟨w, hw, h⟩
    rcases Bool.or_eq_true_iff.mp h with heq | hsame
    · rwa [← of_decide_eq_true heq]
    · rwa [← eq_of_same_text hsame]
  · intro h
    exact ⟨_, h, by rw [decide_eq_true rfl, Bool.true_or]⟩

end Value

namespace Transcript

/-- a writer that remembers what is known: the messages that were recorded, and their texts -/
structure Knows (known : Known) (w : Writer) : Prop where
  written : ∀ s, (Value.text s).isAmong w.written = (known (.text s)).isSome
  texts : ∀ s t, known (.text s) = some t → w.textOf? (.text s) = some t

namespace Writer

theorem textOf?_remember (w : Writer) (m : Message) (s : String) :
    (w.remember m).textOf? (.text s) = if m.id = .text s then some m.text else w.textOf? (.text s) := by
  have hamong : (Value.text s).isAmong [m.id] = true ↔ m.id = .text s := by
    rw [Value.isAmong_text_iff, List.mem_singleton, eq_comm]
  rw [textOf?, remember, List.find?_cons]
  by_cases h : m.id = .text s
  · rw [hamong.mpr h, if_pos h]
    rfl
  · rw [Bool.eq_false_iff.mpr (mt hamong.mp h), if_neg h]
    rfl

end Writer

namespace Knows

variable {known : Known} {w : Writer} {m : Message}

theorem hasWritten (h : Knows known w) (hm : m.IsTextual) :
    w.hasWritten m = (known m.id).isSome := by
  obtain ⟨s, hs⟩ := hm.id
  rw [Writer.hasWritten, hs]
  exact h.written s

/-- what is news to a writer depends on what is known only -/
theorem isNews_iff (h : Knows known w) (hm : m.IsTextual) :
    w.isNews m = true ↔ m.pending = false ∧ known m.id ≠ some m.text := by
  have hwritten := h.hasWritten hm
  obtain ⟨s, hs⟩ := hm.id
  obtain ⟨t, ht⟩ := hm.text
  have hold : (w.hasWritten m && w.hasText m) = true ↔ known m.id = some m.text := by
    rw [Bool.and_eq_true, hwritten, Writer.hasText, ht, Value.same_text_iff]
    constructor
    · rintro ⟨hsome, htext⟩
      obtain ⟨x, hx⟩ := Option.isSome_iff_exists.mp hsome
      have hx' : w.textOf? m.id = some x := by
        rw [hs] at hx ⊢
        exact h.texts s x hx
      rw [hx', Option.getD_some] at htext
      rw [hx, htext]
    · intro hknown
      have hx' : w.textOf? m.id = some (.text t) := by
        rw [hs] at hknown ⊢
        exact h.texts s _ hknown
      rw [hknown, hx']
      exact ⟨rfl, rfl⟩
  rw [Writer.isNews, Bool.and_eq_true, Bool.not_eq_true', Bool.not_eq_true', ← Bool.not_eq_true,
    ← Bool.not_eq_true, hold, Bool.not_eq_true]

theorem remember (h : Knows known w) (b : Bool) : Knows (known.with ⟨m, b⟩) (w.remember m) where
  written s := by
    have hcons : (Value.text s).isAmong (m.id :: w.written) = true ↔
        m.id = .text s ∨ (Value.text s).isAmong w.written = true := by
      rw [Value.isAmong_text_iff, Value.isAmong_text_iff, List.mem_cons, eq_comm]
    rw [Known.with]
    by_cases hid : m.id = .text s
    · rw [if_pos hid]
      exact hcons.mpr (.inl hid)
    · rw [if_neg hid, ← h.written s, Bool.eq_iff_iff]
      exact hcons.trans (or_iff_right hid)
  texts s t ht := by
    rw [Writer.textOf?_remember]
    rw [Known.with] at ht
    by_cases hid : m.id = .text s
    · rw [if_pos hid] at ht ⊢
      exact ht
    · rw [if_neg hid] at ht ⊢
      exact h.texts s t ht

end Knows

/-- an item among others that is the only one of its key is the one that is found -/
theorem find?_of_nodup {α β : Type} {f : α → β} {xs : List α} (h : (xs.map f).Nodup) {x : α}
    (hx : x ∈ xs) {p : α → Bool} (hp : ∀ y, p y = true ↔ f y = f x) : xs.find? p = some x := by
  have hsome : (xs.find? p).isSome = true := List.find?_isSome.mpr ⟨x, hx, (hp x).mpr rfl⟩
  obtain ⟨y, hy⟩ := Option.isSome_iff_exists.mp hsome
  have hkey : f y = f x := (hp y).mp (List.find?_some hy)
  rw [hy, List.inj_on_of_nodup_map h (List.mem_of_find?_eq_some hy) hx hkey]

theorem settledTexts_of_mem {c : Conversation} (hids : (c.messages.map (·.id)).Nodup) {m : Message}
    (hm : m ∈ c.settled) : settledTexts c m.id = some m.text := by
  have hsettled : (c.settled.map (·.id)).Nodup := hids.sublist (List.filter_sublist.map _)
  rw [settledTexts, find?_of_nodup hsettled hm fun y => decide_eq_true_iff]
  rfl

/-- a writer that starts remembers the messages that were settled -/
theorem knows_start (run : Path) {c : Conversation} (hids : (c.messages.map (·.id)).Nodup) :
    Knows (settledTexts c) (.start run c) where
  written s := by
    rw [Bool.eq_iff_iff, settledTexts, Option.isSome_map, List.find?_isSome]
    show (Value.text s).isAmong (c.settled.map (·.id)) = true ↔ _
    rw [Value.isAmong_text_iff, List.mem_map]
    simp only [decide_eq_true_eq]
  texts s t ht := by
    obtain ⟨m, hm, rfl⟩ := Option.map_eq_some_iff.mp ht
    have hid : m.id = .text s := by simpa using List.find?_some hm
    have hmem : m ∈ c.messages := (List.mem_filter.mp (List.mem_of_find?_eq_some hm)).1
    let pairs : List (Value × Value) := c.messages.reverse.map fun m => (m.id, m.text)
    have hkeys : (pairs.map (·.1)).Nodup := by
      rw [List.map_map]
      exact (List.reverse_perm c.messages |>.map (·.id)).nodup_iff.mpr hids
    have hpair : (m.id, m.text) ∈ pairs := List.mem_map_of_mem (List.mem_reverse.mpr hmem)
    have hfind : pairs.find? (fun p => (Value.text s).isAmong [p.1]) = some (m.id, m.text) :=
      find?_of_nodup hkeys hpair fun p => by
        rw [Value.isAmong_text_iff, List.mem_singleton, hid, eq_comm]
    show (pairs.find? fun p => (Value.text s).isAmong [p.1]).map (·.2) = some m.text
    rw [hfind]
    rfl

/-! ## what a writer writes -/

namespace Writer

theorem thread_ne_notepad (w : Writer) : w.threadPath.place ≠ w.notepadPath.place :=
  w.run.place_child_ne (by decide) (by decide) (by decide)

/-- the log is none of the files that the notepad is written by way of -/
theorem thread_ne_beside (w : Writer) (n : Nat) : w.threadPath.place ≠
    (w.notepadPath.parent.child (Disk.besideName w.notepadPath.name n)).place :=
  w.run.place_child_ne_beside (by decide +kernel) n

variable {known : Known} {w w' : Writer} {d d' : Disk}

/-- the writer after messages, and the records that it adds to its log -/
def recording (w : Writer) : List Message → Writer × List Record
  | [] => (w, [])
  | m :: ms =>
    if w.isNews m then
      (((w.remember m).recording ms).1, ⟨m, w.hasWritten m⟩ :: ((w.remember m).recording ms).2)
    else w.recording ms

theorem recording_cons_of_news {m : Message} (h : w.isNews m = true) (ms : List Message) :
    w.recording (m :: ms) =
      (((w.remember m).recording ms).1, ⟨m, w.hasWritten m⟩ :: ((w.remember m).recording ms).2) := by
  rw [recording, if_pos h]

theorem recording_cons_of_old {m : Message} (h : w.isNews m ≠ true) (ms : List Message) :
    w.recording (m :: ms) = w.recording ms := by
  rw [recording, if_neg h]

/-- recording messages changes nothing but what is remembered of them -/
theorem recording_frame (w : Writer) (ms : List Message) :
    (w.recording ms).1.run = w.run ∧ (w.recording ms).1.document = w.document := by
  induction ms generalizing w with
  | nil => exact ⟨rfl, rfl⟩
  | cons m ms ih =>
    by_cases hnews : w.isNews m = true
    · rw [recording_cons_of_news hnews]
      exact ih (w.remember m)
    · rw [recording_cons_of_old hnews]
      exact ih w

/-- a writer that is shown messages without fail adds the records that are due to its log -/
theorem recording_of_hearMessages {ms : List Message} (h : w.hearMessages d ms = (.ok (), w', d')) :
    w' = (w.recording ms).1 ∧
      d'.tree.bytesAt w.threadPath.place =
        d.tree.bytesAt w.threadPath.place ++ (w.recording ms).2.flatMap Record.bytes ∧
      ∀ q, q ≠ w.threadPath.place → d'.tree.bytesAt q = d.tree.bytesAt q := by
  induction ms generalizing w d with
  | nil =>
    rw [hearMessages] at h
    cases h
    exact ⟨rfl, (List.append_nil _).symm, fun _ _ => rfl⟩
  | cons m ms ih =>
    rw [hearMessages] at h
    split at h
    · cases h
    by_cases hnews : w.isNews m = true
    · rw [if_pos hnews] at h
      split at h
      · rename_i d₁ happend
        have happend' : carriedOut (Disk.appendRecord w.threadPath (w.entry m)) d = (.ok (), d₁) :=
          happend
        have hline := Disk.bytesAt_of_appendRecord happend'
        obtain ⟨hw', hlog, hothers⟩ := ih h
        have hpath : (w.remember m).threadPath = w.threadPath := rfl
        rw [recording_cons_of_news hnews]
        refine ⟨hw', ?_, fun q hq => ?_⟩
        · rw [hpath] at hlog
          rw [hlog, hline, List.flatMap_cons, List.append_assoc]
          rfl
        · have hleaves := Disk.leaves_appendRecord hq (w.entry m) d
          rw [happend'] at hleaves
          exact (hothers q hq).trans hleaves
      · cases h
    · rw [if_neg hnews] at h
      rw [recording_cons_of_old hnews]
      exact ih h

/-- for a writer that remembers what is known, the records that are due are the news -/
theorem recording_of_knows {ms : List Message} (hknows : Knows known w)
    (hms : ∀ m ∈ ms, m.IsTextual) :
    (w.recording ms).2 = news known ms ∧ Knows (replay known (news known ms)) (w.recording ms).1 := by
  induction ms generalizing known w with
  | nil => exact ⟨rfl, hknows⟩
  | cons m ms ih =>
    have hm : m.IsTextual := hms m List.mem_cons_self
    have htail : ∀ x ∈ ms, x.IsTextual := fun x hx => hms x (List.mem_cons_of_mem m hx)
    rw [news]
    by_cases hnews : w.isNews m = true
    · obtain ⟨hrecords, hknows'⟩ := ih (hknows.remember (known m.id).isSome) htail
      rw [recording_cons_of_news hnews, if_pos ((hknows.isNews_iff hm).mp hnews),
        hknows.hasWritten hm, hrecords]
      exact ⟨rfl, hknows'⟩
    · rw [recording_cons_of_old hnews, if_neg (mt (hknows.isNews_iff hm).mpr hnews)]
      exact ih hknows htail

/-- a writer that is shown messages adds the news to its log, and remembers them -/
theorem of_hearMessages {ms : List Message} (hknows : Knows known w)
    (hms : ∀ m ∈ ms, m.IsTextual) (h : w.hearMessages d ms = (.ok (), w', d')) :
    Knows (replay known (news known ms)) w' ∧ w'.run = w.run ∧ w'.document = w.document ∧
      d'.tree.bytesAt w.threadPath.place =
        d.tree.bytesAt w.threadPath.place ++ (news known ms).flatMap Record.bytes ∧
      ∀ q, q ≠ w.threadPath.place → d'.tree.bytesAt q = d.tree.bytesAt q := by
  obtain ⟨rfl, hlog, hothers⟩ := recording_of_hearMessages h
  obtain ⟨hrecords, hknows'⟩ := recording_of_knows hknows hms
  obtain ⟨hrun, hdocument⟩ := recording_frame w ms
  exact ⟨hknows', hrun, hdocument, hrecords ▸ hlog, hothers⟩

/-- what becomes of the notepad does not touch the log, nor what is remembered of it -/
theorem hearDocument_leaves {document : Value} {r : Except Fault Unit}
    (h : w.hearDocument d document = (r, w', d')) :
    w' = { w with document := w'.document } ∧
      d'.tree.bytesAt w.threadPath.place = d.tree.bytesAt w.threadPath.place := by
  rw [hearDocument] at h
  split at h
  · cases h
    exact ⟨rfl, rfl⟩
  · have hleaves := Disk.leaves_replaceWith w.thread_ne_notepad w.thread_ne_beside
      (Disk.bytesOf document) d
    obtain ⟨-, hrest⟩ := Prod.mk.inj h
    obtain ⟨rfl, rfl⟩ := Prod.mk.inj hrest
    exact ⟨rfl, hleaves⟩

/-- the notepad is written if it is another one -/
theorem of_hearDocument {t : String} (h : w.hearDocument d (.text t) = (.ok (), w', d')) :
    w'.document = .text t ∧ d'.tree.bytesAt w.notepadPath.place =
      if w.document = .text t then d.tree.bytesAt w.notepadPath.place else Utf8.encode t := by
  rw [hearDocument] at h
  by_cases hsame : w.document = .text t
  · rw [if_pos (Value.text_same_iff.mpr hsame)] at h
    cases h
    rw [if_pos hsame]
    exact ⟨hsame, rfl⟩
  · rw [if_neg (mt Value.text_same_iff.mp hsame)] at h
    obtain ⟨hok, hrest⟩ := Prod.mk.inj h
    obtain ⟨rfl, hdisk⟩ := Prod.mk.inj hrest
    have hwrite : carriedOut (Disk.writeContent w.notepadPath (.text t)) d = (.ok (), d') :=
      Prod.ext hok hdisk
    rw [if_neg hsame]
    exact ⟨rfl, Disk.bytesAt_of_writeContent hwrite⟩

section

variable {c : Conversation}

/-- a writer that is shown a conversation without fail has been shown its messages and its notepad -/
theorem exists_of_hear (h : w.hear d c = (.ok (), w', d')) :
    ∃ w₁ d₁, w.hearMessages d c.messages = (.ok (), w₁, d₁) ∧
      w₁.hearDocument d₁ c.document = (.ok (), w', d') := by
  rw [hear] at h
  split at h
  · rename_i w₁ d₁ hmessages
    exact ⟨w₁, d₁, hmessages, h⟩
  · rename_i r hnot
    exact absurd h fun heq => hnot w' d' (by rw [heq])

/-- a writer that is shown a conversation adds the news to its log -/
theorem of_hear (hknows : Knows known w) (hms : ∀ m ∈ c.messages, m.IsTextual)
    (h : w.hear d c = (.ok (), w', d')) :
    Knows (replay known (news known c.messages)) w' ∧ w'.run = w.run ∧
      d'.tree.bytesAt w.threadPath.place =
        d.tree.bytesAt w.threadPath.place ++ (news known c.messages).flatMap Record.bytes := by
  obtain ⟨w₁, d₁, hmessages, hdocument⟩ := exists_of_hear h
  obtain ⟨hknows', hrun, -, hlog, -⟩ := of_hearMessages hknows hms hmessages
  obtain ⟨hw', hthread⟩ := hearDocument_leaves hdocument
  have hpath : w₁.threadPath = w.threadPath := by rw [threadPath, threadPath, hrun]
  rw [hpath] at hthread
  rw [hw']
  exact ⟨⟨hknows'.written, hknows'.texts⟩, hrun, hthread.trans hlog⟩

/-- and it keeps the notepad in its file from the first change on -/
theorem notepad_of_hear {t : String} (hknows : Knows known w) (hms : ∀ m ∈ c.messages, m.IsTextual)
    (ht : c.document = .text t) (h : w.hear d c = (.ok (), w', d')) :
    w'.document = .text t ∧ d'.tree.bytesAt w.notepadPath.place =
      if w.document = .text t then d.tree.bytesAt w.notepadPath.place else Utf8.encode t := by
  obtain ⟨w₁, d₁, hmessages, hdocument⟩ := exists_of_hear h
  obtain ⟨-, hrun, hkept, -, hothers⟩ := of_hearMessages hknows hms hmessages
  rw [ht] at hdocument
  obtain ⟨hw', hnotepad⟩ := of_hearDocument hdocument
  have hpath : w₁.notepadPath = w.notepadPath := by rw [notepadPath, notepadPath, hrun]
  rw [hpath, hkept, hothers _ w.thread_ne_notepad.symm] at hnotepad
  exact ⟨hw', hnotepad⟩

end

end Writer

end Transcript

end Debate
