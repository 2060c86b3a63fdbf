import Debate.Files.Text
import Debate.Message
import Debate.Proofs.Layout
import Debate.Record
import Debate.Text.Utf8

/-!
# Records of the thread log

A line of the thread log is a record: a message as it was, and whether it had been recorded before.
What is known of the texts of messages grows with each record; the news among messages are the
settled ones whose text is not the one that is known.

* `Record`                    a line of the thread log;
* `replay`                    the texts that are known after records;
* `Consistent`                records that say of each message whether it was known, and what is new;
* `news`                      the records that are due when messages are seen;
* `replay_news`               behind the news all that is settled is known.
-/

namespace Debate

open Debate.Files Debate.Text

namespace Transcript

/-! ## records -/

/-- a line of the thread log: a message as it was, and whether it had been recorded before -/
structure Record where
  message : Message
  revision : Bool
  deriving DecidableEq

namespace Record

def value (e : Record) : Value :=
  .object (e.message.toFields ++ [("revision", .bool e.revision)])

/-- the line of a record, without the line feed that ends it -/
def line (e : Record) : String := e.value.toCompact

/-- the line of a record in the file -/
def bytes (e : Record) : List UInt8 := Utf8.encode (e.line ++ "\n")

theorem newline_not_mem_line (e : Record) : '\n' ∉ e.line.toList := by
  rw [line, Value.toCompact, String.toList_ofList]
  exact Value.not_mem_compact (by decide) _

end Record

/-- what is known of the texts of messages, by their ids -/
abbrev Known := Value → Option Value

/-- what is known after one record more -/
def Known.with (known : Known) (e : Record) : Known := fun id =>
  if e.message.id = id then some e.message.text else known id

/-- what is known after records -/
def replay (known : Known) (es : List Record) : Known := es.foldl Known.with known

/-- the texts of the settled messages of a conversation -/
def settledTexts (c : Conversation) : Known := fun id =>
  (c.settled.find? fun m => m.id = id).map (·.text)

/-- records that say whether a message was known before, and have a text that it did not have -/
def Consistent (known : Known) (es : List Record) : Prop :=
  ∀ before e after, es = before ++ e :: after →
    e.revision = (replay known before e.message.id).isSome ∧
      replay known before e.message.id ≠ some e.message.text

theorem replay_cons (known : Known) (e : Record) (es : List Record) :
    replay known (e :: es) = replay (known.with e) es := rfl

theorem replay_append (known : Known) (es es' : List Record) :
    replay known (es ++ es') = replay (replay known es) es' := List.foldl_append

theorem consistent_nil (known : Known) : Consistent known [] := by
  intro before e after h
  have hlength := congrArg List.length h
  rw [List.length_append, List.length_cons, List.length_nil] at hlength
  omega

theorem Consistent.cons {known : Known} {e : Record} {es : List Record}
    (hrevision : e.revision = (known e.message.id).isSome)
    (htext : known e.message.id ≠ some e.message.text) (h : Consistent (known.with e) es) :
    Consistent known (e :: es) := by
  intro before x after hsplit
  cases before with
  | nil =>
    obtain ⟨rfl, -⟩ := List.cons_eq_cons.mp hsplit
    exact ⟨hrevision, htext⟩
  | cons b before =>
    obtain ⟨rfl, htail⟩ := List.cons_eq_cons.mp hsplit
    rw [replay_cons]
    exact h before x after htail

theorem Consistent.append {known : Known} {es es' : List Record} (h : Consistent known es)
    (h' : Consistent (replay known es) es') : Consistent known (es ++ es') := by
  intro before x after hsplit
  rcases List.append_eq_append_iff.mp hsplit with ⟨more, hbefore, hes'⟩ | ⟨more, hes, hafter⟩
  · rw [hbefore, replay_append]
    exact h' more x after hes'
  · cases more with
    | nil =>
      rw [List.append_nil] at hes
      rw [← hes]
      have hfirst := h' [] x after (by rw [List.nil_append]; exact hafter.symm)
      exact hfirst
    | cons y more =>
      obtain ⟨rfl, -⟩ := List.cons_eq_cons.mp hafter
      exact h before x more hes

/-- a message is known after records if it was known before or one of them is of it -/
theorem isSome_replay (known : Known) (es : List Record) (id : Value) :
    (replay known es id).isSome = true ↔
      (known id).isSome = true ∨ ∃ e ∈ es, e.message.id = id := by
  induction es generalizing known with
  | nil =>
    refine ⟨.inl, ?_⟩
    rintro (h | ⟨e, he, -⟩)
    · exact h
    · cases he
  | cons e es ih =>
    rw [replay_cons, ih, Known.with]
    by_cases h : e.message.id = id
    · rw [if_pos h]
      exact ⟨fun _ => .inr ⟨e, List.mem_cons_self, h⟩, fun _ => .inl rfl⟩
    · rw [if_neg h]
      refine or_congr_right ⟨?_, ?_⟩
      · rintro ⟨x, hx, hid⟩
        exact ⟨x, List.mem_cons_of_mem e hx, hid⟩
      · rintro ⟨x, hx, hid⟩
        rcases List.mem_cons.mp hx with rfl | hx
        · exact absurd hid h
        · exact ⟨x, hx, hid⟩

/-- records of other messages tell nothing of a message -/
theorem replay_of_ne {known : Known} {es : List Record} {id : Value}
    (h : ∀ e ∈ es, e.message.id ≠ id) : replay known es id = known id := by
  induction es generalizing known with
  | nil => rfl
  | cons e es ih =>
    rw [replay_cons, ih fun x hx => h x (List.mem_cons_of_mem e hx), Known.with,
      if_neg (h e List.mem_cons_self)]

/-! ## news -/

/-- the records of settled messages whose text is not the one that is known -/
def news (known : Known) : List Message → List Record
  | [] => []
  | m :: ms =>
    if m.pending = false ∧ known m.id ≠ some m.text then
      ⟨m, (known m.id).isSome⟩ :: news (known.with ⟨m, (known m.id).isSome⟩) ms
    else news known ms

theorem consistent_news (known : Known) (ms : List Message) : Consistent known (news known ms) := by
  induction ms generalizing known with
  | nil => exact consistent_nil known
  | cons m ms ih =>
    rw [news]
    split
    · rename_i h
      exact .cons rfl h.2 (ih _)
    · exact ih known

theorem mem_news {known : Known} {ms : List Message} {e : Record} (h : e ∈ news known ms) :
    e.message ∈ ms ∧ e.message.pending = false := by
  induction ms generalizing known with
  | nil => cases h
  | cons m ms ih =>
    rw [news] at h
    split at h
    · rename_i hm
      rcases List.mem_cons.mp h with rfl | h
      · exact ⟨List.mem_cons_self, hm.1⟩
      · exact (ih h).imp_left (List.mem_cons_of_mem m)
    · exact (ih h).imp_left (List.mem_cons_of_mem m)

/-- behind the news every settled message is known with the text that it has -/
theorem replay_news {known : Known} {ms : List Message} (hids : (ms.map (·.id)).Nodup) {m : Message}
    (hm : m ∈ ms) (hsettled : m.pending = false) :
    replay known (news known ms) m.id = some m.text := by
  induction ms generalizing known with
  | nil => cases hm
  | cons x ms ih =>
    rw [List.map_cons, List.nodup_cons] at hids
    rcases List.mem_cons.mp hm with rfl | hm
    · -- the messages behind it are others, and say nothing of it
      have hothers (known' : Known) : ∀ e ∈ news known' ms, e.message.id ≠ m.id := by
        intro e he heq
        rw [← heq] at hids
        exact hids.1 (List.mem_map_of_mem (mem_news he).1)
      rw [news]
      split
      · rw [replay_cons, replay_of_ne (hothers _), Known.with, if_pos rfl]
      · rename_i h
        rw [replay_of_ne (hothers _)]
        exact Classical.not_not.mp fun hne => h ⟨hsettled, hne⟩
    · rw [news]
      split
      · rw [replay_cons]
        exact ih hids.2 hm
      · exact ih hids.2 hm

end Transcript

end Debate
