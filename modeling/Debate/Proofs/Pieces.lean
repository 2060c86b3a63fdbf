import Debate.Text.Split
import Mathlib.Tactic.Ring

/-!
# The pieces of a text

A text is cut at a literal in one way only: each piece but the last ends where the literal is met for
the first time, and in the last piece it is not met at all. Lines are such pieces, with the line feed as
the literal; as it is a single character, texts are put together line by line.

* `FirstAfter`        a literal behind a text is the first one in both together;
* `IsCut`             a text and its pieces;
* `isCut_iff`         no other pieces than those of `split`;
* `joinFirst`         pieces of which only the first is followed by something else;
* `length_join`       how long pieces are with one literal or another between them;
* `lines_unlines`     texts below each other, line by line;
* `lines_eq_iff`      the lines of a text are the texts without line feeds that it is made of.
-/

namespace Debate.Text

variable {l w p cs ds : List Char} {ps ls : List (List Char)} {c : Char}

/-! ## pieces -/

/-- a literal behind a text is the first occurrence of the literal in both together -/
def FirstAfter (l p : List Char) : Prop := ∀ a b, p ++ l = a ++ l ++ b → b = []

/-- a text and its pieces: the text before the first occurrence of a literal, and so on behind it, up to a
text in which the literal does not occur -/
inductive IsCut (l : List Char) : List Char → List (List Char) → Prop where
  | last {p : List Char} (hp : ¬ l <:+: p) : IsCut l p [p]
  | piece {p cs : List Char} {ps : List (List Char)} (hp : FirstAfter l p) (hps : IsCut l cs ps) :
    IsCut l (p ++ l ++ cs) (p :: ps)

theorem firstAfter_nil (l : List Char) : FirstAfter l [] := by
  intro a b h
  have hlength := congrArg List.length h
  simp only [List.nil_append, List.length_append] at hlength
  exact List.length_eq_zero_iff.mp (by omega)

theorem FirstAfter.tail (h : FirstAfter l (c :: p)) : FirstAfter l p := fun a b hab =>
  h (c :: a) b (by rw [List.cons_append, hab, List.cons_append, List.cons_append])

/-- a text does not start with a literal that is met further behind for the first time -/
theorem FirstAfter.not_startsWith (h : FirstAfter l (c :: p)) (cs : List Char) :
    ¬ l <+: c :: p ++ l ++ cs := by
  intro hstart
  have hlength : l.length ≤ (c :: p ++ l).length := by
    rw [List.length_append]
    omega
  -- the literal would lie within `c :: p ++ l`, and not at its end
  obtain ⟨b, hb⟩ := List.prefix_of_prefix_length_le hstart (List.prefix_append _ cs) hlength
  have hnil := h [] b hb.symm
  have hshort := congrArg List.length hb
  rw [hnil, List.append_nil, List.length_append, List.length_cons] at hshort
  omega

theorem firstAfter_cons (h : FirstAfter l p) (hstart : ¬ l <+: c :: p ++ l) :
    FirstAfter l (c :: p) := by
  intro a b hab
  cases a with
  | nil => exact absurd ⟨b, hab.symm⟩ hstart
  | cons d a =>
    simp only [List.cons_append, List.cons.injEq] at hab
    exact h a b hab.2

theorem dropLiteral?_eq_none_iff : dropLiteral? l cs = none ↔ ¬ l <+: cs := by
  constructor
  · rintro h ⟨rest, rfl⟩
    rw [dropLiteral?_append] at h
    cases h
  · intro h
    cases hd : dropLiteral? l cs with
    | none => rfl
    | some rest => exact absurd ⟨rest, (dropLiteral?_eq_some_iff.mp hd).symm⟩ h

/-- a character in front of a text that does not start with the literal then is in its first piece -/
theorem IsCut.consHead (h : IsCut l cs ps) (hstart : ¬ l <+: c :: cs) :
    IsCut l (c :: cs) (consHead c ps) := by
  cases h with
  | last hp =>
    refine .last fun hlies => ?_
    rcases List.infix_cons_iff.mp hlies with hfirst | hlater
    · exact hstart hfirst
    · exact hp hlater
  | @piece p cs ps hp hps =>
    refine .piece (firstAfter_cons hp fun hfirst => hstart ?_) hps
    exact hfirst.trans (List.prefix_append _ cs)

theorem isCut_split (hl : l ≠ []) (cs : List Char) : IsCut l cs (split l cs) := by
  fun_induction split l cs with
  | case1 => exact .last fun h => hl (List.infix_nil.mp h)
  | case2 c cs hnil => exact absurd hnil hl
  | case3 c cs _ rest h ih =>
    rw [dropLiteral?_eq_some_iff.mp h]
    exact .piece (firstAfter_nil l) ih
  | case4 c cs _ h ih => exact ih.consHead (dropLiteral?_eq_none_iff.mp h)

theorem split_of_absent (hl : l ≠ []) (h : ¬ l <:+: p) : split l p = [p] := by
  induction p with
  | nil => exact split_nil l
  | cons c p ih =>
    have hstart : ¬ l <+: c :: p := fun hfirst => h hfirst.isInfix
    have hlater : ¬ l <:+: p := fun hlies => h (List.infix_cons hlies)
    rw [split_cons_of_none hl (dropLiteral?_eq_none_iff.mpr hstart), ih hlater]
    rfl

theorem split_of_firstAfter (hl : l ≠ []) (h : FirstAfter l p) (cs : List Char) :
    split l (p ++ l ++ cs) = p :: split l cs := by
  induction p with
  | nil => exact split_append_left hl cs
  | cons c p ih =>
    have hnone : dropLiteral? l (c :: (p ++ l ++ cs)) = none :=
      dropLiteral?_eq_none_iff.mpr (h.not_startsWith cs)
    rw [List.cons_append, List.cons_append, split_cons_of_none hl hnone, ih h.tail]
    rfl

/-- a text has no other pieces than those it is split into -/
theorem isCut_iff (hl : l ≠ []) : IsCut l cs ps ↔ ps = split l cs := by
  constructor
  · intro h
    induction h with
    | last hp => rw [split_of_absent hl hp]
    | piece hp hps ih => rw [split_of_firstAfter hl hp, ← ih]
  · rintro rfl
    exact isCut_split hl cs

/-! ## pieces put together -/

/-- pieces with one literal behind the first of them, and another between the others -/
def joinFirst (w l : List Char) : List (List Char) → List Char
  | p :: q :: ps => p ++ w ++ join l (q :: ps)
  | ps => join l ps

theorem replaceFirst_eq (l w cs : List Char) : replaceFirst l w cs = joinFirst w l (split l cs) := by
  have hjoin := join_split l cs
  rw [replaceFirst]
  match h : split l cs with
  | [] => exact absurd h (split_ne_nil l cs)
  | [p] => rw [← hjoin, h]; rfl
  | p :: q :: ps => rfl

/-- with another literal between them, pieces are longer or shorter by the difference of both, as often as
there is a literal -/
theorem length_join (l w : List Char) (h : ps ≠ []) :
    ((join w ps).length : Int) = (join l ps).length + (ps.length - 1) * (w.length - l.length) := by
  induction ps with
  | nil => exact absurd rfl h
  | cons p ps ih =>
    cases ps with
    | nil => simp
    | cons q ps =>
      have hne : q :: ps ≠ [] := List.cons_ne_nil q ps
      have hrest := ih hne
      rw [join_cons hne, join_cons hne]
      simp only [List.length_append, List.length_cons, Nat.cast_add, Nat.cast_one] at hrest ⊢
      rw [hrest]
      ring

theorem length_joinFirst (l w : List Char) (h : ps ≠ []) :
    ((joinFirst w l ps).length : Int) =
      (join l ps).length + min (ps.length - 1 : Int) 1 * (w.length - l.length) := by
  match ps with
  | [] => exact absurd rfl h
  | [p] => simp [joinFirst]
  | p :: q :: ps =>
    have hmin : min (((p :: q :: ps).length : Int) - 1) 1 = 1 := by
      simp only [List.length_cons]
      omega
    rw [joinFirst, join_cons (List.cons_ne_nil q ps), hmin]
    simp only [List.length_append, Nat.cast_add]
    ring

/-! ## lines -/

theorem consHead_append (h : ps ≠ []) (ls : List (List Char)) :
    consHead c (ps ++ ls) = consHead c ps ++ ls := by
  cases ps with
  | nil => exact absurd rfl h
  | cons p ps => rfl

theorem lines_append (cs ds : List Char) : lines (cs ++ '\n' :: ds) = lines cs ++ lines ds := by
  induction cs with
  | nil => rw [List.nil_append, lines_newline, lines_nil, List.singleton_append]
  | cons c cs ih =>
    by_cases hc : c = '\n'
    · rw [hc, List.cons_append, lines_newline, lines_newline, ih, List.cons_append]
    · rw [List.cons_append, lines_cons hc, lines_cons hc, ih, consHead_append (lines_ne_nil cs)]

theorem lines_of_not_mem (h : '\n' ∉ cs) : lines cs = [cs] :=
  split_of_absent (by simp) fun hlies => h (hlies.subset (List.mem_singleton_self _))

theorem newline_not_mem_lines (cs : List Char) : ∀ p ∈ lines cs, '\n' ∉ p := by
  induction cs with
  | nil => simp
  | cons c cs ih =>
    by_cases hc : c = '\n'
    · rw [hc, lines_newline]
      simpa using ih
    · rw [lines_cons hc]
      cases h : lines cs with
      | nil => exact absurd h (lines_ne_nil cs)
      | cons q qs =>
        rw [h] at ih
        intro p hp
        rcases List.mem_cons.mp hp with rfl | hp
        · exact List.not_mem_cons_of_ne_of_not_mem (Ne.symm hc) (ih q List.mem_cons_self)
        · exact ih p (List.mem_cons_of_mem q hp)

/-- the lines of texts below each other are the lines of each text, one text after the other -/
theorem lines_unlines (h : ls ≠ []) : lines (unlines ls) = ls.flatMap lines := by
  induction ls with
  | nil => exact absurd rfl h
  | cons p ls ih =>
    cases ls with
    | nil => rw [List.flatMap_singleton]; rfl
    | cons q ls =>
      have hne : q :: ls ≠ [] := List.cons_ne_nil q ls
      have hjoin : unlines (p :: q :: ls) = p ++ '\n' :: unlines (q :: ls) := by
        rw [unlines, join_cons hne, List.append_assoc, List.singleton_append, unlines]
      rw [hjoin, lines_append, ih hne, List.flatMap_cons (f := lines) (x := p)]

theorem flatMap_lines (h : ∀ p ∈ ls, '\n' ∉ p) : ls.flatMap lines = ls := by
  induction ls with
  | nil => rfl
  | cons p ls ih =>
    rw [List.flatMap_cons, lines_of_not_mem (h p List.mem_cons_self),
      ih fun q hq => h q (List.mem_cons_of_mem p hq), List.singleton_append]

/-- a text between lines is there line by line -/
theorem lines_unlines_middle {before after : List (List Char)} (hbefore : ∀ p ∈ before, '\n' ∉ p)
    (hafter : ∀ p ∈ after, '\n' ∉ p) (cs : List Char) :
    lines (unlines (before ++ cs :: after)) = before ++ lines cs ++ after := by
  rw [lines_unlines (by simp), List.flatMap_append, List.flatMap_cons, flatMap_lines hbefore,
    flatMap_lines hafter, List.append_assoc]

/-- the lines of a text are the texts without line feeds that make the text when they are put below each
other -/
theorem lines_eq_iff : lines cs = ls ↔ ls ≠ [] ∧ unlines ls = cs ∧ ∀ p ∈ ls, '\n' ∉ p := by
  constructor
  · rintro rfl
    exact ⟨lines_ne_nil cs, unlines_lines cs, newline_not_mem_lines cs⟩
  · rintro ⟨hne, rfl, hplain⟩
    rw [lines_unlines hne, flatMap_lines hplain]

end Debate.Text
