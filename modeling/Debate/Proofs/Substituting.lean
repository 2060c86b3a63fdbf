import Debate.Notepad.Edit
import Debate.Proofs.Pieces

/-!
# Literals replaced

A literal is taken as it stands, and met from left to right without overlaps. The notepad and the literal
alone say where: they have one list of pieces, and what comes in place of the literal is put between the
pieces. It is never looked at again, whatever stands in it.

* `substitute_of_isCut`     a text after a replacement, from its pieces;
* `Edit.apply_substitute`   what a replacement does to a notepad, in full.
-/

namespace Debate.Notepad

open Debate.Text

variable {f w d : List Char} {ps : List (List Char)}

theorem substitute_nil (w : List Char) (all : Bool) (d : List Char) : substitute [] w all d = d := rfl

theorem substitute_of_ne_nil (hf : f ≠ []) (w : List Char) (all : Bool) (d : List Char) :
    substitute f w all d = if all then replaceAll f w d else replaceFirst f w d := by
  rw [substitute, if_neg (by simpa using hf)]

/-- every occurrence of a literal replaced, or the first, from the pieces of the text -/
theorem substitute_of_isCut (hf : f ≠ []) (h : IsCut f d ps) (w : List Char) :
    substitute f w true d = join w ps ∧ substitute f w false d = joinFirst w f ps := by
  obtain rfl := (isCut_iff hf).mp h
  rw [substitute_of_ne_nil hf, substitute_of_ne_nil hf, if_pos rfl, if_neg Bool.false_ne_true,
    replaceFirst_eq]
  exact ⟨rfl, rfl⟩

theorem substitute_self (f d : List Char) (all : Bool) : substitute f f all d = d := by
  by_cases hf : f = []
  · rw [hf, substitute_nil]
  · rw [substitute_of_ne_nil hf]
    cases all with
    | true => exact replaceAll_self f d
    | false => exact replaceFirst_self f d

/-- the pieces of a text with the literal between them are the text -/
theorem join_of_isCut (hf : f ≠ []) (h : IsCut f d ps) : ps ≠ [] ∧ join f ps = d := by
  obtain rfl := (isCut_iff hf).mp h
  exact ⟨split_ne_nil f d, join_split f d⟩

namespace Edit

theorem toList_apply_substitute (f w : String) (all : Bool) (d : String) :
    ((substitute f w all).apply d).toList = Notepad.substitute f.toList w.toList all d.toList :=
  toList_apply _ d

theorem apply_substitute_self (f : String) (all : Bool) (d : String) :
    (substitute f f all).apply d = d := by
  rw [← String.toList_inj, toList_apply_substitute, substitute_self]

theorem apply_substitute_empty (w : String) (all : Bool) (d : String) :
    (substitute "" w all).apply d = d := by
  rw [← String.toList_inj, toList_apply_substitute]
  exact substitute_nil w.toList all d.toList

/-- a notepad has one list of pieces for a literal that is not empty; the replacement is put between all of
them, or behind the first, and nothing happens if there is only one piece. So the notepad gets longer or
shorter by the difference of the two as often as there was a literal to replace, or once; a literal in
place of itself changes nothing, and neither does an empty literal -/
theorem apply_substitute {f : String} (hf : f ≠ "") (w d : String) :
    ∃ ps, (∀ qs, IsCut f.toList d.toList qs ↔ qs = ps) ∧
      ((substitute f w true).apply d).toList = join w.toList ps ∧
      ((substitute f w false).apply d).toList = joinFirst w.toList f.toList ps ∧
      (ps.length = 1 → ∀ all, (substitute f w all).apply d = d) ∧
      (((substitute f w true).apply d).length : Int) =
        d.length + (ps.length - 1) * (w.length - f.length) ∧
      (((substitute f w false).apply d).length : Int) =
        d.length + min (ps.length - 1 : Int) 1 * (w.length - f.length) ∧
      (∀ all, (substitute f f all).apply d = d) ∧ ∀ all, (substitute "" w all).apply d = d := by
  have hne : f.toList ≠ [] := mt String.toList_eq_nil_iff.mp hf
  obtain ⟨ps, hps⟩ : ∃ ps, ps = split f.toList d.toList := ⟨_, rfl⟩
  have hcut : IsCut f.toList d.toList ps := (isCut_iff hne).mpr hps
  obtain ⟨hpieces, hjoin⟩ := join_of_isCut hne hcut
  have hall : ((substitute f w true).apply d).toList = join w.toList ps :=
    (toList_apply_substitute f w true d).trans (substitute_of_isCut hne hcut w.toList).1
  have hfirst : ((substitute f w false).apply d).toList = joinFirst w.toList f.toList ps :=
    (toList_apply_substitute f w false d).trans (substitute_of_isCut hne hcut w.toList).2
  refine ⟨ps, fun qs => hps ▸ isCut_iff hne, hall, hfirst, fun hone all => ?_, ?_, ?_,
    fun all => apply_substitute_self f all d, fun all => apply_substitute_empty w all d⟩
  · obtain ⟨p, rfl⟩ := List.length_eq_one_iff.mp hone
    rw [← String.toList_inj, ← hjoin]
    cases all with
    | true => exact hall
    | false => exact hfirst
  · have hlength := length_join f.toList w.toList hpieces
    rw [← hall, hjoin] at hlength
    exact hlength
  · have hlength := length_joinFirst f.toList w.toList hpieces
    rw [← hfirst, hjoin] at hlength
    exact hlength

/-- a literal that overlaps itself, in place of which something comes that holds it -/
theorem apply_substitute_overlapping :
    "aa" ≠ "" ∧ IsCut "aa".toList "aaaaa".toList [[], [], ['a']] ∧
      (substitute "aa" "aab" true).apply "aaaaa" = "aabaaba" ∧
      (substitute "aa" "aab" false).apply "aaaaa" = "aabaaa" := by
  have hf : "aa" ≠ "" := by decide
  obtain ⟨ps, hcut, hall, hfirst, -⟩ := apply_substitute hf "aab" "aaaaa"
  have hps : IsCut "aa".toList "aaaaa".toList [[], [], ['a']] := by
    have hlast : IsCut "aa".toList ['a'] [['a']] := .last (by decide)
    exact .piece (firstAfter_nil _) (.piece (firstAfter_nil _) hlast)
  obtain rfl := (hcut _).mp hps
  refine ⟨hf, hps, ?_, ?_⟩
  · rw [← String.toList_inj, hall]
    decide
  · rw [← String.toList_inj, hfirst]
    decide

end Edit

end Debate.Notepad
