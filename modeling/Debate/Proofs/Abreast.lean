import Debate.Proofs.Regular
import Debate.Proofs.Saved
import Debate.Proofs.Scribes
import Debate.Proofs.Tidy

/-!
# Writers that are abreast of a conversation

A writer is abreast of a conversation if it remembers what a writer would remember that starts with it.
It stays so as long as what is settled stays settled, whatever else becomes of the conversation: only
a turn that is taken once more makes it remember more.

* `Abreast`                  a writer that remembers what is settled, and nothing else;
* `Abreast.heard`            it stays abreast when it is shown what the conversation has become;
* `Abreast.alike`            writers that are abreast of the same remember the same;
* `Action.IsSettling`        a change in a debate other than a new message;
* `Conversation.IsKeepable`  a conversation that can be saved, and whose ids will not be drawn again.
-/

namespace Debate

open Debate.Files Debate.Text

variable {σ : Type}

/-! ## changes that settle -/

/-- a change in a debate other than a new message: it settles messages, and texts stay texts -/
inductive Action.IsSettling : Action → Prop where
  | resolve (id : Value) (text : String) (durationMs : Int) (document : String) :
      IsSettling (.resolve id (.text text) (.int durationMs) (.text document))
  | fail (id : Value) (error : String) : IsSettling (.fail id error)
  | dropPending : IsSettling .dropPending
  | setDocument (text : String) : IsSettling (.setDocument (.text text))

/-- what is settled stays settled -/
def Conversation.Keeps (c c' : Conversation) : Prop := ∀ x ∈ c.settled, ∃ y ∈ c'.settled, y.id = x.id

namespace Message.IsRecord

variable {x : Message}

theorem resolved (h : x.IsRecord) (text : String) (durationMs : Int) :
    (x.resolved (.text text) (.int durationMs)).IsRecord :=
  ⟨h.id, ⟨text, rfl⟩, h.timestamp, .inr ⟨durationMs, rfl⟩, h.image⟩

theorem failed (h : x.IsRecord) (error : String) : (x.failed error).IsRecord :=
  ⟨h.id, ⟨_, rfl⟩, h.timestamp, h.durationMs, h.image⟩

theorem isTextual (h : x.IsRecord) : x.IsTextual := by
  obtain ⟨id, -, hid⟩ := h.id
  exact ⟨⟨id, hid⟩, h.text⟩

end Message.IsRecord

namespace Conversation

variable {c c' : Conversation} {u u' : Supply}

theorem mem_settled {x : Message} : x ∈ c.settled ↔ x ∈ c.messages ∧ x.pending = false := by
  rw [settled, List.mem_filter, Bool.not_eq_true']

theorem Keeps.refl (c : Conversation) : c.Keeps c := fun x hx => ⟨x, hx, rfl⟩

theorem keeps_append (c : Conversation) (m : Message) : c.Keeps (c.apply (.append m)) := by
  intro x hx
  obtain ⟨hmem, hpending⟩ := mem_settled.mp hx
  exact ⟨x, mem_settled.mpr ⟨List.mem_append_left _ hmem, hpending⟩, rfl⟩

theorem keeps_modify (c : Conversation) (id : Value) {f : Message → Message}
    (hf : ∀ x, (f x).id = x.id ∧ (f x).pending = false) : c.Keeps (c.modify id f) := by
  intro x hx
  obtain ⟨hmem, hpending⟩ := mem_settled.mp hx
  have hmapped : (if x.hasId id then f x else x) ∈ (c.modify id f).messages :=
    List.mem_map_of_mem hmem
  by_cases hid : x.hasId id = true
  · rw [if_pos hid] at hmapped
    exact ⟨f x, mem_settled.mpr ⟨hmapped, (hf x).2⟩, (hf x).1⟩
  · rw [if_neg hid] at hmapped
    exact ⟨x, mem_settled.mpr ⟨hmapped, hpending⟩, rfl⟩

end Conversation

namespace Action.IsSettling

variable {a : Action} {c : Conversation}

theorem keeps (h : a.IsSettling) (c : Conversation) : c.Keeps (c.apply a) := by
  cases h with
  | resolve id text durationMs document => exact c.keeps_modify id fun x => ⟨rfl, rfl⟩
  | fail id error => exact c.keeps_modify id fun x => ⟨rfl, rfl⟩
  | dropPending =>
    intro x hx
    exact ⟨x, Conversation.mem_settled.mpr ⟨hx, (Conversation.mem_settled.mp hx).2⟩, rfl⟩
  | setDocument text => exact .refl c

/-- no message comes, and none gets another id -/
theorem ids_sublist (h : a.IsSettling) (c : Conversation) :
    ((c.apply a).messages.map (·.id)).Sublist (c.messages.map (·.id)) := by
  cases h with
  | resolve id text durationMs document =>
    have hids := c.ids_modify id (·.resolved (.text text) (.int durationMs)) fun _ _ => rfl
    exact hids ▸ List.Sublist.refl _
  | fail id error =>
    have hids := c.ids_modify id (·.failed error) fun _ _ => rfl
    exact hids ▸ List.Sublist.refl _
  | dropPending => exact List.filter_sublist.map _
  | setDocument text => exact List.Sublist.refl _

theorem isRecord (h : a.IsSettling) (hc : c.IsRecord) : (c.apply a).IsRecord := by
  have hmodify (id : Value) {f : Message → Message} (hf : ∀ x : Message, x.IsRecord → (f x).IsRecord) :
      ∀ x ∈ (c.modify id f).messages, x.IsRecord := by
    intro x hx
    obtain ⟨y, hy, rfl⟩ := List.mem_map.mp hx
    split
    · exact hf y (hc.messages y hy)
    · exact hc.messages y hy
  cases h with
  | resolve id text durationMs document =>
    exact ⟨hc.id, hc.title, hc.createdAt, hc.updatedAt,
      hmodify id fun x hx => hx.resolved text durationMs, ⟨document, rfl⟩⟩
  | fail id error =>
    exact ⟨hc.id, hc.title, hc.createdAt, hc.updatedAt, hmodify id fun x hx => hx.failed error,
      hc.document⟩
  | dropPending =>
    exact ⟨hc.id, hc.title, hc.createdAt, hc.updatedAt, hc.settled, hc.document⟩
  | setDocument text =>
    exact ⟨hc.id, hc.title, hc.createdAt, hc.updatedAt, hc.messages, ⟨text, rfl⟩⟩

end Action.IsSettling

/-! ## conversations that can be saved -/

/-- a conversation that can be saved, and whose ids differ and will not be drawn again -/
structure Conversation.IsKeepable (u : Supply) (c : Conversation) : Prop where
  record : c.IsRecord
  known : c.IsKnown u

namespace Conversation.IsKeepable

variable {c c' : Conversation} {u u' : Supply}

theorem later (h : c.IsKeepable u) (hid : u'.idOf = u.idOf) (hdrawn : u.drawn ≤ u'.drawn) :
    c.IsKeepable u' := ⟨h.record, h.known.later hid hdrawn⟩

theorem apply (h : c.IsKeepable u) {a : Action} (ha : a.IsSettling) : (c.apply a).IsKeepable u :=
  ⟨ha.isRecord h.record, h.known.of_sublist (ha.ids_sublist c)⟩

theorem append (h : c.IsKeepable u) {x : Message} (hx : x.IsRecord) (hid : x.id = .text u.draw.1) :
    (c.apply (.append x)).IsKeepable u.draw.2 := by
  refine ⟨⟨h.record.id, ?_, h.record.createdAt, ?_, fun y hy => ?_, h.record.document⟩,
    h.known.append hid⟩
  · -- the title is the one it was, or the start of a text
    obtain ⟨t, ht⟩ := hx.text
    show ∃ s, c.titleWith x = .text s
    rw [titleWith]
    split
    · rw [ht, titleOf_text]
      exact ⟨_, rfl⟩
    · exact h.record.title
  · obtain ⟨t, -, ht⟩ := hx.timestamp
    exact ⟨t, ht⟩
  · rcases List.mem_append.mp hy with hy | hy
    · exact h.record.messages y hy
    · rw [List.mem_singleton.mp hy]
      exact hx

theorem textual (h : c.IsKeepable u) : ∀ x ∈ c.messages, x.IsTextual :=
  fun x hx => (h.record.messages x hx).isTextual

theorem sameTalk (h : c.IsKeepable u) (htalk : c.SameTalk c') : c'.IsKeepable u := by
  obtain ⟨created, -, hcreated⟩ := h.record.createdAt
  obtain ⟨updated, hupdated⟩ := h.record.updatedAt
  -- the time of the last message, or of the last activity in its place
  have htext : ∃ t, c'.updatedAt = .text t := by
    rcases htalk.updatedAt with hu | hu
    · exact ⟨updated, hu.trans hupdated⟩
    · rw [hu, Conversation.activityAt, Value.orElse]
      split
      · exact ⟨created, hcreated⟩
      · exact ⟨updated, hupdated⟩
  have hknown : c'.IsKnown u := ⟨htalk.messages ▸ h.known.distinct, htalk.messages ▸ h.known.fresh⟩
  refine ⟨?_, hknown⟩
  rw [htalk.same]
  exact ⟨h.record.id, h.record.title, h.record.createdAt, htext, h.record.messages, h.record.document⟩

end Conversation.IsKeepable

namespace Transcript

/-! ## writers -/

/-- a writer that remembers what is settled, and nothing else -/
structure Abreast (w : Writer) (c : Conversation) : Prop where
  knows : Knows (settledTexts c) w
  written : ∀ v ∈ w.written, ∃ x ∈ c.settled, x.id = v
  document : w.document = c.document

theorem isSome_settledTexts {c : Conversation} {id : Value} :
    (settledTexts c id).isSome = true ↔ ∃ x ∈ c.settled, x.id = id := by
  rw [settledTexts, Option.isSome_map, List.find?_isSome]
  simp only [decide_eq_true_eq]

namespace Writer

variable {w : Writer}

theorem mem_written_recording {ms : List Message} {v : Value}
    (h : v ∈ (w.recording ms).1.written) :
    v ∈ w.written ∨ ∃ m ∈ ms, m.pending = false ∧ m.id = v := by
  induction ms generalizing w with
  | nil => exact .inl h
  | cons m ms ih =>
    by_cases hnews : w.isNews m = true
    · rw [recording_cons_of_news hnews] at h
      have hsettled : m.pending = false := by
        rw [isNews, Bool.and_eq_true, Bool.not_eq_true'] at hnews
        exact hnews.1
      rcases ih h with hold | ⟨x, hx, hfound⟩
      · rcases List.mem_cons.mp hold with rfl | hold
        · exact .inr ⟨m, List.mem_cons_self, hsettled, rfl⟩
        · exact .inl hold
      · exact .inr ⟨x, List.mem_cons_of_mem m hx, hfound⟩
    · rw [recording_cons_of_old hnews] at h
      rcases ih h with hold | ⟨x, hx, hfound⟩
      · exact .inl hold
      · exact .inr ⟨x, List.mem_cons_of_mem m hx, hfound⟩

end Writer

/-- what is known after the news of a conversation in which everything that was settled still is -/
theorem replay_news_settled {c c' : Conversation} (hids : (c'.messages.map (·.id)).Nodup)
    (hkeeps : c.Keeps c') :
    replay (settledTexts c) (news (settledTexts c) c'.messages) = settledTexts c' := by
  funext id
  by_cases hsettled : ∃ x ∈ c'.settled, x.id = id
  · obtain ⟨x, hx, rfl⟩ := hsettled
    obtain ⟨hmem, hpending⟩ := Conversation.mem_settled.mp hx
    rw [replay_news hids hmem hpending, settledTexts_of_mem hids hx]
  · -- neither was such a message settled before nor is there a record of one
    have hold : ¬ (settledTexts c id).isSome = true := by
      rw [isSome_settledTexts]
      rintro ⟨x, hx, rfl⟩
      exact hsettled (hkeeps x hx)
    have hnone : ¬ (replay (settledTexts c) (news (settledTexts c) c'.messages) id).isSome = true := by
      rw [isSome_replay]
      rintro (h | ⟨e, he, hid⟩)
      · exact hold h
      · obtain ⟨hmem, hpending⟩ := mem_news he
        exact hsettled ⟨e.message, Conversation.mem_settled.mpr ⟨hmem, hpending⟩, hid⟩
    rw [Option.not_isSome_iff_eq_none.mp hnone,
      Option.not_isSome_iff_eq_none.mp (mt isSome_settledTexts.mp hsettled)]

namespace Abreast

variable {w w' : Writer} {c c' : Conversation}

/-- so is a writer that starts -/
theorem start (run : Path) (hids : (c.messages.map (·.id)).Nodup) : Abreast (.start run c) c where
  knows := knows_start run hids
  written _ hv := List.mem_map.mp hv
  document := rfl

/-- a writer stays abreast when it is shown what the conversation has become -/
theorem heard {u : Supply} (h : Abreast w c) (hc' : c'.IsKeepable u) (hkeeps : c.Keeps c') :
    Abreast (w.heard c') c' := by
  obtain ⟨t, ht⟩ := hc'.record.document
  obtain ⟨-, hknows⟩ := Writer.recording_of_knows h.knows hc'.textual
  rw [replay_news_settled hc'.known.distinct.nodup hkeeps] at hknows
  refine ⟨⟨hknows.written, hknows.texts⟩, fun v hv => ?_, ?_⟩
  · rcases Writer.mem_written_recording hv with hold | ⟨x, hx, hpending, rfl⟩
    · obtain ⟨x, hx, rfl⟩ := h.written v hold
      exact hkeeps x hx
    · exact ⟨x, Conversation.mem_settled.mpr ⟨hx, hpending⟩, rfl⟩
  · -- a notepad that is the one that is remembered is not taken anew
    show w.noting c'.document = c'.document
    rw [Writer.noting, ht]
    split
    · rename_i hsame
      exact Value.text_same_iff.mp hsame
    · rfl

theorem sameTalk (h : Abreast w c) (htalk : c.SameTalk c') : Abreast w c' := by
  have hknown : settledTexts c' = settledTexts c := by
    funext id
    rw [settledTexts, settledTexts, htalk.settled]
  exact ⟨hknown ▸ h.knows, htalk.settled ▸ h.written, h.document.trans htalk.document.symm⟩

/-- what counts as recorded is a text -/
theorem text_of_isAmong (h : Abreast w c) (hids : ∀ x ∈ c.settled, x.IsTextual) {v : Value}
    (hv : v.isAmong w.written = true) : ∃ s, v = .text s := by
  obtain ⟨id, hid, hsame⟩ := List.any_eq_true.mp hv
  obtain ⟨x, hx, rfl⟩ := h.written id hid
  obtain ⟨s, hs⟩ := (hids x hx).id
  rw [hs] at hsame
  rcases Bool.or_eq_true_iff.mp hsame with heq | hsame
  · exact ⟨s, (of_decide_eq_true heq).symm⟩
  · exact ⟨s, Value.text_same_iff.mp hsame⟩

/-- writers that are abreast of the same remember the same -/
theorem alike (h : Abreast w c) (h' : Abreast w' c) (hrun : w'.run = w.run)
    (hids : ∀ x ∈ c.settled, x.IsTextual) : w.Alike w' := by
  refine ⟨hrun, fun v => ?_, fun v hv => ?_, ?_⟩
  · rw [Bool.eq_iff_iff]
    constructor
    · intro hv
      obtain ⟨s, rfl⟩ := h'.text_of_isAmong hids hv
      rwa [h'.knows.written, ← h.knows.written] at hv
    · intro hv
      obtain ⟨s, rfl⟩ := h.text_of_isAmong hids hv
      rwa [h.knows.written, ← h'.knows.written] at hv
  · obtain ⟨s, rfl⟩ := h.text_of_isAmong hids hv
    rw [h.knows.written] at hv
    obtain ⟨t, ht⟩ := Option.isSome_iff_exists.mp hv
    rw [h.knows.texts s t ht, h'.knows.texts s t ht]
  · rw [h.document, h'.document]

end Abreast

end Transcript

end Debate
