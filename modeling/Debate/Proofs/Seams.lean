import Debate.Proofs.Pieces
import Debate.Text.Blank
import Mathlib.Data.List.DropRight

/-!
# Texts put together from pieces

When something is taken out of a text, the pieces that are left are put together and the blanks at
the ends are cut. What stands in such a text stands in one of the pieces, or it is new: then it lies
across a seam, with one piece in front of it and another behind.

* `Across`                   a part that lies across a seam between pieces;
* `indent`                   how many blanks stand in front of a text;
* `Sewn`                     a part that lies across a seam once the blanks at the ends are cut;
* `Sewn.mem`                 such a part starts in a piece that is not the last one;
* `infix_or_sewn`            a literal stands in one of the pieces, or across a seam;
* `infix_append_cons`        a literal stands on one side of a character that it does not hold;
* `contains_iff`             when a literal occurs in a text;
* `not_infix_of_mem_split`   a literal occurs in none of the pieces that it cuts a text into.
-/

namespace Debate.Text

variable {l w cs p : List Char} {ps : List (List Char)} {i j : Nat}

/-- a part of pieces that are put together, from one place up to another: it starts in front of a
seam and stops behind it -/
def Across (ps : List (List Char)) (i j : Nat) : Prop :=
  ∃ before after, ps = before ++ after ∧ i < before.flatten.length ∧ before.flatten.length < j

theorem Across.cons (h : Across ps i j) (p : List Char) :
    Across (p :: ps) (p.length + i) (p.length + j) := by
  obtain ⟨before, after, rfl, hi, hj⟩ := h
  refine ⟨p :: before, after, rfl, ?_, ?_⟩ <;> rw [List.flatten_cons, List.length_append] <;> omega

theorem infix_or_across (hw : w ≠ []) (h : w <+: ps.flatten.drop i) :
    (∃ p ∈ ps, w <:+: p) ∨ Across ps i (i + w.length) := by
  induction ps generalizing i with
  | nil =>
    rw [List.flatten_nil, List.drop_nil] at h
    exact absurd (List.prefix_nil.mp h) hw
  | cons p ps ih =>
    rw [List.flatten_cons, List.drop_append] at h
    by_cases hi : p.length ≤ i
    · -- the first piece is over
      rw [List.drop_eq_nil_of_le hi, List.nil_append] at h
      rcases ih h with ⟨q, hq, hin⟩ | hacross
      · exact .inl ⟨q, List.mem_cons_of_mem p hq, hin⟩
      · right
        have e : p.length + (i - p.length) = i := by omega
        have e' : p.length + (i - p.length + w.length) = i + w.length := by omega
        have hcons := hacross.cons p
        rwa [e, e'] at hcons
    · rw [show i - p.length = 0 by omega, List.drop_zero] at h
      by_cases hj : i + w.length ≤ p.length
      · have hlength : w.length ≤ (p.drop i).length := by
          rw [List.length_drop]
          omega
        have hfirst := List.prefix_of_prefix_length_le h (List.prefix_append _ _) hlength
        exact .inl ⟨p, List.mem_cons_self, hfirst.isInfix.trans (List.drop_suffix i p).isInfix⟩
      · refine .inr ⟨[p], ps, rfl, ?_, ?_⟩ <;> rw [List.flatten_singleton] <;> omega

/-- what lies across a seam starts in a piece that is not the last one -/
theorem Across.mem (h : Across ps i j) (hj : j ≤ ps.flatten.length) {c : Char}
    (hc : ps.flatten[i]? = some c) : ∃ p ∈ ps.dropLast, c ∈ p := by
  obtain ⟨before, after, rfl, hi, hlt⟩ := h
  have hafter : after ≠ [] := by
    rintro rfl
    rw [List.append_nil] at hj
    omega
  rw [List.flatten_append, List.getElem?_append_left hi] at hc
  obtain ⟨p, hp, hcp⟩ := List.mem_flatten.mp (List.mem_of_getElem? hc)
  rw [List.dropLast_append_of_ne_nil hafter]
  exact ⟨p, List.mem_append_left _ hp, hcp⟩

/-! ## blanks at the ends -/

/-- how many blanks stand in front of a text -/
def indent (cs : List Char) : Nat := (cs.takeWhile isBlank).length

theorem exists_trimChars (cs : List Char) :
    ∃ lead trail, cs = lead ++ (trimChars cs ++ trail) ∧ lead.length = indent cs := by
  have hleft : cs.takeWhile isBlank ++ trimLeft cs = cs := List.takeWhile_append_dropWhile
  have hright : trimChars cs ++ ((trimLeft cs).reverse.takeWhile isBlank).reverse =
      trimLeft cs := by
    rw [trimChars, trimRight, ← List.reverse_append, List.takeWhile_append_dropWhile,
      List.reverse_reverse]
  exact ⟨cs.takeWhile isBlank, _, by rw [hright, hleft], rfl⟩

theorem prefix_of_trimChars (h : w <+: (trimChars cs).drop i) : w <+: cs.drop (indent cs + i) := by
  obtain ⟨lead, trail, hcs, hlead⟩ := exists_trimChars cs
  have hdrop : cs.drop lead.length = trimChars cs ++ trail := by
    conv_lhs => rw [hcs]
    exact List.drop_left
  rw [← hlead, ← List.drop_drop, hdrop, List.drop_append]
  exact h.trans (List.prefix_append _ _)

theorem length_trimChars_le (cs : List Char) : (trimChars cs).length ≤ cs.length := by
  obtain ⟨lead, trail, hcs, -⟩ := exists_trimChars cs
  have hlength := congrArg List.length hcs
  simp only [List.length_append] at hlength
  omega

theorem trimChars_trimChars (cs : List Char) : trimChars (trimChars cs) = trimChars cs := by
  have hleft : trimLeft (trimChars cs) = trimChars cs := by
    obtain ⟨rest, hrest⟩ : trimChars cs <+: trimLeft cs :=
      List.rdropWhile_prefix isBlank (trimLeft cs)
    cases hkept : trimChars cs with
    | nil => rfl
    | cons c ds =>
      have hc := List.head?_dropWhile_not isBlank cs
      rw [← trimLeft, ← hrest, hkept, List.cons_append, List.head?_cons] at hc
      have hblank : isBlank c = false := hc
      rw [trimLeft_cons, hblank]
      rfl
  conv_lhs => rw [trimChars, hleft]
  exact List.rdropWhile_idempotent isBlank (trimLeft cs)

/-- a part of the text that is left when pieces are put together and the blanks at its ends are cut:
it lies across a seam -/
def Sewn (ps : List (List Char)) (i j : Nat) : Prop :=
  Across ps (indent ps.flatten + i) (indent ps.flatten + j)

theorem infix_or_sewn (hw : w ≠ []) (h : w <+: (trimChars ps.flatten).drop i) :
    (∃ p ∈ ps, w <:+: p) ∨ Sewn ps i (i + w.length) := by
  rw [Sewn, ← Nat.add_assoc]
  exact infix_or_across hw (prefix_of_trimChars h)

theorem Sewn.mem (h : Sewn ps i j) (hj : j ≤ (trimChars ps.flatten).length) {c : Char}
    (hc : (trimChars ps.flatten)[i]? = some c) : ∃ p ∈ ps.dropLast, c ∈ p := by
  obtain ⟨lead, trail, hps, hlead⟩ := exists_trimChars ps.flatten
  have hlength := congrArg List.length hps
  simp only [List.length_append] at hlength
  refine Across.mem h (by omega) ?_
  rw [← hlead, hps, List.getElem?_append_right (Nat.le_add_right _ _), Nat.add_sub_cancel_left,
    List.getElem?_append_left (List.getElem?_eq_some_iff.mp hc).1, hc]

/-! ## the pieces at a literal -/

theorem infix_append_cons {as bs : List Char} {c : Char} (hc : c ∉ l) (h : l <:+: as ++ c :: bs) :
    l <:+: as ∨ l <:+: bs := by
  obtain ⟨before, after, hlies⟩ := h
  rw [List.append_assoc] at hlies
  rcases List.append_eq_append_iff.mp hlies with ⟨mid, rfl, hrest⟩ | ⟨mid, rfl, hrest⟩
  · -- the literal starts in front of the character
    rcases List.append_eq_append_iff.mp hrest with ⟨mid', rfl, -⟩ | ⟨mid', rfl, hcons⟩
    · exact .inl ⟨before, mid', List.append_assoc _ _ _⟩
    · cases mid' with
      | nil => exact .inl ⟨before, [], by simp⟩
      | cons d mid' =>
        obtain ⟨rfl, -⟩ := List.cons_eq_cons.mp hcons
        exact absurd (List.mem_append_right mid List.mem_cons_self) hc
  · cases mid with
    | nil =>
      cases l with
      | nil => exact .inl (List.nil_infix)
      | cons d l =>
        obtain ⟨rfl, -⟩ := List.cons_eq_cons.mp hrest
        exact absurd List.mem_cons_self hc
    | cons d mid =>
      obtain ⟨rfl, rfl⟩ := List.cons_eq_cons.mp hrest
      exact .inr ⟨mid, after, by simp⟩

theorem IsCut.absent (hl : l ≠ []) (h : IsCut l cs ps) : ∀ p ∈ ps, ¬ l <:+: p := by
  induction h with
  | last hp =>
    intro q hq
    rwa [List.mem_singleton.mp hq]
  | @piece p cs ps hp _ ih =>
    intro q hq
    rcases List.mem_cons.mp hq with rfl | hq
    · -- an occurrence within the piece would be in front of the first one
      rintro ⟨a, b, hab⟩
      have hnil : b ++ l = [] := hp a (b ++ l) (by rw [← hab, List.append_assoc])
      exact hl (List.append_eq_nil_iff.mp hnil).2
    · exact ih q hq

theorem not_infix_of_mem_split (hl : l ≠ []) (hp : p ∈ split l cs) : ¬ l <:+: p :=
  (isCut_split hl cs).absent hl p hp

theorem contains_iff (hl : l ≠ []) : contains l cs = true ↔ l <:+: cs := by
  have hempty : l.isEmpty = false := List.isEmpty_eq_false_iff.mpr hl
  rw [contains, hempty, Bool.false_or, bne_iff_ne]
  constructor
  · intro h
    by_contra habsent
    rw [split_of_absent hl habsent] at h
    exact h rfl
  · intro hin hone
    obtain ⟨p, hp⟩ := List.length_eq_one_iff.mp hone
    have hcs : p = cs := by
      have hjoin := join_split l cs
      rwa [hp] at hjoin
    exact not_infix_of_mem_split hl (hp ▸ List.mem_singleton_self p) (hcs ▸ hin)

theorem join_empty (ps : List (List Char)) : join [] ps = ps.flatten := by
  induction ps with
  | nil => rfl
  | cons p ps ih =>
    cases ps with
    | nil => rw [join_singleton, List.flatten_singleton]
    | cons q ps =>
      rw [join_cons (List.cons_ne_nil q ps), ih, List.append_nil]
      exact List.flatten_cons.symm

end Debate.Text
