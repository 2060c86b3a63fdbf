import Debate.Proofs.Documented
import Debate.Proofs.Seams

/-!
# What is said, read again

What a reply says is the text between its tags, put together. No tag stands in one of the texts
between: it would have been found, wherever it stands, as it takes nothing from the text behind it.
But the text in front of a tag and the text behind it may make up a tag between them, and that tag
was not there when the reply was read. So what a reply says may be read as a reply once more, and
say less.

* `isConstruct_of_lies`        a tag within a text is a construct of the text;
* `FoundFrom.not_infix_gap`    no tag stands in a gap between the constructs that are found;
* `construct_sewn`             a tag in what is said lies across a seam;
* `tags_eq_nil_iff`            a text without tags;
* `Reply.read_said`            when what is said says itself;
* `Reply.sewn_of_read`         what may stand in what is said, and when it can be read again.
-/

namespace Debate.Notepad

open Debate.Text

variable {cs : List Char} {i : Nat} {t : Tag} {x : Span} {xs : List Span}

/-! ## constructs in other places -/

theorem isConstruct_of_lies {rest a b : List Char} (ht : t.Stands rest)
    (h : a ++ (t.written ++ b) = cs.drop i) :
    IsConstruct cs ⟨i + a.length, t, i + a.length + t.written.length⟩ := by
  have hstart : cs.drop (i + a.length) = t.written ++ b := by
    rw [← List.drop_drop, ← h, List.drop_left]
  have hstop : cs.drop (i + a.length + t.written.length) = b := by
    rw [← List.drop_drop, hstart, List.drop_left]
  exact ⟨rfl, by rw [hstop, hstart], ht.anywhere _⟩

/-! ## gaps -/

theorem gap_append {k : Nat} (h : i ≤ k) : (cs.take k).drop i ++ cs.drop k = cs.drop i := by
  obtain ⟨n, rfl⟩ := Nat.exists_eq_add_of_le h
  rw [List.drop_take, Nat.add_sub_cancel_left, ← List.drop_drop, List.take_append_drop]

/-- no tag stands in a gap: the one behind the gap would not have been the first -/
theorem FoundFrom.not_infix_gap (h : FoundFrom cs i xs) {rest : List Char} (ht : t.Stands rest) :
    ∀ g ∈ gaps cs i xs, ¬ t.written <:+: g := by
  have hpos := t.length_written_pos
  induction h with
  | @done i hnone =>
    intro g hg
    rw [gaps, List.mem_singleton] at hg
    subst hg
    rintro ⟨a, b, hab⟩
    rw [List.append_assoc] at hab
    have hlt : i + a.length < i := hnone _ (isConstruct_of_lies ht hab)
    omega
  | @next i x xs hx hi hfirst hfound ih =>
    intro g hg
    rw [gaps, List.mem_cons] at hg
    rcases hg with rfl | hg
    · rintro ⟨a, b, hab⟩
      rw [List.append_assoc] at hab
      have hlength := congrArg List.length hab
      simp only [List.length_append, List.length_drop, List.length_take] at hlength
      have hlies : a ++ (t.written ++ (b ++ cs.drop x.start)) = cs.drop i :=
        calc a ++ (t.written ++ (b ++ cs.drop x.start))
            = a ++ (t.written ++ b) ++ cs.drop x.start := by simp only [List.append_assoc]
          _ = cs.drop i := by rw [hab, gap_append hi]
      have hle : x.start ≤ i + a.length :=
        hfirst _ (isConstruct_of_lies ht hlies) (Nat.le_add_right i a.length)
      omega
    · exact ih g hg

theorem residual_eq (cs : List Char) : residual cs = (gaps cs 0 (spans cs)).flatten :=
  (flatten_gaps cs (List.drop_zero (l := cs)).symm).symm

/-- a tag in what is left of a text was put together when the tags of the text were taken out -/
theorem construct_sewn (h : IsConstruct (trimChars (residual cs)) x) :
    Sewn (gaps cs 0 (spans cs)) x.start x.stop := by
  have hne : x.tag.written ≠ [] := List.ne_nil_of_length_pos x.tag.length_written_pos
  have hlies : x.tag.written <+: (trimChars (residual cs)).drop x.start := ⟨_, h.written⟩
  rw [residual_eq] at hlies
  rw [h.stop]
  rcases infix_or_sewn hne hlies with ⟨g, hg, hin⟩ | hsewn
  · exact absurd hin ((foundFrom_spansFrom cs rfl).not_infix_gap h.stands g hg)
  · exact hsewn

theorem IsConstruct.getElem?_start (h : IsConstruct cs x) : cs[x.start]? = some '<' := by
  have hopening : x.tag.opening.head? = some '<' :=
    head?_of_toLower (map_toLower_of_foldCase h.stands.opening (by decide))
  have hwritten : x.tag.written.head? = some '<' := by
    rw [Tag.written]
    simp only [List.head?_append, hopening, Option.some_or]
  rw [← List.head?_drop, ← h.written, List.head?_append, hwritten, Option.some_or]

/-- no tag is put together if nothing that could start one stands in front of the last tag -/
theorem not_isConstruct_residual (h : ∀ g ∈ (gaps cs 0 (spans cs)).dropLast, '<' ∉ g) (x : Span) :
    ¬ IsConstruct (trimChars (residual cs)) x := by
  intro hx
  have hsewn := construct_sewn hx
  have hstart := hx.getElem?_start
  have hstop := hx.bounds.2
  rw [residual_eq] at hstart hstop
  obtain ⟨g, hg, hmem⟩ := hsewn.mem hstop hstart
  exact h g hg hmem

/-! ## texts without tags -/

theorem tags_eq_map (cs : List Char) : tags cs = (spans cs).map (·.tag) :=
  (map_tag_spansFrom 0 (pieces cs)).symm

theorem tags_eq_nil_iff : tags cs = [] ↔ ∀ x, ¬ IsConstruct cs x := by
  have hfound : FoundFrom cs 0 (spans cs) := foundFrom_spansFrom cs rfl
  rw [tags_eq_map, List.map_eq_nil_iff]
  generalize spans cs = xs at hfound
  cases hfound with
  | done hnone => exact ⟨fun _ x hx => Nat.not_lt_zero _ (hnone x hx), fun _ => rfl⟩
  | next hx => exact ⟨nofun, fun hnone => absurd hx (hnone _)⟩

/-- each tag was longer than nothing -/
theorem length_plain_add_tags_le (ps : List Piece) :
    (ps.filterMap Piece.plain?).length + (ps.filterMap Piece.tag?).length ≤
      (ps.flatMap Piece.written).length := by
  induction ps with
  | nil => exact Nat.le_refl 0
  | cons p ps ih =>
    rw [List.flatMap_cons, List.length_append]
    cases p with
    | plain c =>
      simp only [List.filterMap_cons, Piece.plain?, Piece.tag?, Piece.written, List.length_cons,
        List.length_nil]
      omega
    | tag t =>
      have hpos := t.length_written_pos
      simp only [List.filterMap_cons, Piece.plain?, Piece.tag?, Piece.written, List.length_cons]
      omega

theorem length_residual_add_le (cs : List Char) :
    (residual cs).length + (tags cs).length ≤ cs.length := by
  have hle := length_plain_add_tags_le (pieces cs)
  rwa [flatMap_written_pieces] at hle

theorem residual_of_tags_eq_nil (h : tags cs = []) : residual cs = cs := by
  have hspans : spans cs = [] := by
    rw [tags_eq_map, List.map_eq_nil_iff] at h
    exact h
  rw [residual_eq, hspans, gaps, List.flatten_singleton, List.drop_zero]

/-! ## what is said -/

namespace Reply

theorem spoken_of_read {raw : String} {r : Reply} (h : read raw = .ok r) :
    r.spoken.toList = trimChars (residual raw.toList) := by
  rw [read] at h
  cases hedits : editsOf (tags raw.toList) with
  | error e =>
    rw [hedits] at h
    cases h
  | ok edits =>
    rw [hedits] at h
    cases h
    exact String.toList_ofList

/-- a text without blanks at its ends says itself when it is read, without an edit, if no tag stands
in it; and if one does, it says something else -/
theorem read_said {s : String} (hs : trimChars s.toList = s.toList) :
    read s = .ok ⟨s, []⟩ ↔ ∀ x, ¬ IsConstruct s.toList x := by
  rw [← tags_eq_nil_iff]
  constructor
  · intro h
    have hspoken : s.toList = trimChars (residual s.toList) := spoken_of_read h
    have hshort := length_trimChars_le (residual s.toList)
    have hle := length_residual_add_le s.toList
    rw [← hspoken] at hshort
    exact List.eq_nil_of_length_eq_zero (by omega)
  · intro h
    rw [read, h, residual_of_tags_eq_nil h, hs, String.ofList_toList]
    rfl

/-- a tag in what a reply says lies across the place of one of the reply's tags; if there is none,
what is said says itself when it is read, without an edit, and there is none if nothing that could
start one stands in front of the reply's last tag -/
theorem sewn_of_read {raw : String} {r : Reply} (h : read raw = .ok r) :
    (∀ x, IsConstruct r.spoken.toList x →
        Sewn (gaps raw.toList 0 (spans raw.toList)) x.start x.stop) ∧
      (read r.spoken = .ok ⟨r.spoken, []⟩ ↔ ∀ x, ¬ IsConstruct r.spoken.toList x) ∧
      ((∀ g ∈ (gaps raw.toList 0 (spans raw.toList)).dropLast, '<' ∉ g) →
        read r.spoken = .ok ⟨r.spoken, []⟩) := by
  have hspoken := spoken_of_read h
  have hagain : read r.spoken = .ok ⟨r.spoken, []⟩ ↔ ∀ x, ¬ IsConstruct r.spoken.toList x :=
    read_said (by rw [hspoken, trimChars_trimChars])
  refine ⟨fun x hx => construct_sewn (hspoken ▸ hx), hagain, fun hplain => hagain.mpr fun x => ?_⟩
  rw [hspoken]
  exact not_isConstruct_residual hplain x

/-- a reply that says nothing that could start a tag but behind its last tag -/
theorem read_said_once :
    read "Done. <np-append>x</np-append> 1 < 2" = .ok ⟨"Done.  1 < 2", [.append "x"]⟩ ∧
      read "Done.  1 < 2" = .ok ⟨"Done.  1 < 2", []⟩ := by
  have hread : read "Done. <np-append>x</np-append> 1 < 2" =
      .ok ⟨"Done.  1 < 2", [.append "x"]⟩ := by
    decide +kernel
  exact ⟨hread, (sewn_of_read hread).2.2 (by decide +kernel)⟩

/-- the tag between the two halves of a head is dropped, and what it stood between is a tag -/
theorem read_sewn :
    read "a <np<np-x/>-append>hi</np-append> b" = .ok ⟨"a <np-append>hi</np-append> b", []⟩ ∧
      read "a <np-append>hi</np-append> b" = .ok ⟨"a  b", [.append "hi"]⟩ := by
  decide +kernel

end Reply

end Debate.Notepad
