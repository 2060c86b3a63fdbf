import Debate.Notepad.Edit
import Debate.Proofs.Pieces

/-!
# Edits line by line

An edit changes a text, but is meant for its lines. What it does to the lines is said here without the
text: a content may bring several lines, a line number may be any integer, and a notepad without text is
a single empty line, except for what is put below or above it. The notepad follows: its lines after
edits are what the edits make of its lines, one edit after the other.

* `Edit.onLines`              what an edit makes of lines;
* `Edit.lines_onChars`        one edit of a text, and of its lines;
* `Edit.apply_of_outside`     a line that is not there is neither replaced nor deleted;
* `Edit.applyAll_linewise`    any number of edits.
-/

namespace Debate.Notepad

open Debate.Text

variable {d : List Char} {ls : List (List Char)} {line : Int} {i : Nat}

/-! ## single lines -/

theorem clamp_eq (line : Int) (n : Nat) : (max 0 (min (n : Int) line)).toNat = clamp line n := by
  rw [clamp]
  omega

theorem newline_not_mem_take (h : ∀ p ∈ ls, '\n' ∉ p) (i : Nat) : ∀ p ∈ ls.take i, '\n' ∉ p :=
  fun p hp => h p (List.mem_of_mem_take hp)

theorem newline_not_mem_drop (h : ∀ p ∈ ls, '\n' ∉ p) (i : Nat) : ∀ p ∈ ls.drop i, '\n' ∉ p :=
  fun p hp => h p (List.mem_of_mem_drop hp)

theorem replaceLine_of_index (h : lineIndex? line ls.length = some i) (cs : List Char) :
    replaceLine line cs ls = ls.take i ++ cs :: ls.drop (i + 1) := by
  have hset : replaceLine line cs ls = ls.set i cs := by rw [replaceLine, h]
  rw [hset, List.set_eq_take_append_cons_drop, if_pos (lineIndex?_eq_some_iff.mp h).2]

theorem deleteLine_of_index (h : lineIndex? line ls.length = some i) :
    deleteLine line ls = ls.take i ++ ls.drop (i + 1) := by
  rw [deleteLine, h]
  exact List.eraseIdx_eq_take_drop_succ ls i

theorem replaceLine_of_outside (h : lineIndex? line ls.length = none) (cs : List Char) :
    replaceLine line cs ls = ls := by
  rw [replaceLine, h]

theorem deleteLine_of_outside (h : lineIndex? line ls.length = none) : deleteLine line ls = ls := by
  rw [deleteLine, h]

namespace Edit

/-- what an edit makes of lines. A literal may run over several lines, so it is replaced in the text that
the lines make -/
def onLines : Edit → List (List Char) → List (List Char)
  | .replaceAll c, _ => lines c.toList
  | .append c, ls => if ls = [[]] then lines c.toList else ls ++ lines c.toList
  | .prepend c, ls => if ls = [[]] then lines c.toList else lines c.toList ++ ls
  | .insert line c, ls =>
    let p := (max 0 (min (ls.length : Int) line)).toNat
    ls.take p ++ lines c.toList ++ ls.drop p
  | .replace line c, ls =>
    if 1 ≤ line ∧ line ≤ ls.length then
      ls.take (line.toNat - 1) ++ lines c.toList ++ ls.drop line.toNat
    else ls
  | .delete line, ls =>
    if 1 ≤ line ∧ line ≤ ls.length then
      if ls.length = 1 then [[]] else ls.take (line.toNat - 1) ++ ls.drop line.toNat
    else ls
  | .substitute find replacement all, ls =>
    lines (Notepad.substitute find.toList replacement.toList all (unlines ls))

/-! ## one edit -/

theorem lines_eq_empty_iff : lines d = [[]] ↔ d = [] := by
  constructor
  · intro h
    rw [← unlines_lines d, h]
    rfl
  · rintro rfl
    exact lines_nil

theorem lines_append_seam (cs : List Char) :
    lines (d ++ seam d ++ cs) = if lines d = [[]] then lines cs else lines d ++ lines cs := by
  cases d with
  | nil => rw [if_pos lines_nil]; rfl
  | cons c d =>
    rw [if_neg (mt lines_eq_empty_iff.mp (List.cons_ne_nil c d)), ← lines_append, List.append_assoc]
    rfl

theorem lines_seam_append (cs : List Char) :
    lines (cs ++ seam d ++ d) = if lines d = [[]] then lines cs else lines cs ++ lines d := by
  cases d with
  | nil => rw [if_pos lines_nil, seam, List.append_nil]; simp
  | cons c d =>
    rw [if_neg (mt lines_eq_empty_iff.mp (List.cons_ne_nil c d)), ← lines_append, List.append_assoc]
    rfl

theorem lines_insertLine (hls : ∀ p ∈ ls, '\n' ∉ p) (line : Int) (c : String) :
    lines (unlines (insertLine line c.toList ls)) = onLines (.insert line c) ls := by
  simp only [onLines, clamp_eq]
  exact lines_unlines_middle (newline_not_mem_take hls _) (newline_not_mem_drop hls _) c.toList

/-- an edit of a line that is there -/
theorem ite_of_index {α : Type} (h : lineIndex? line ls.length = some i) (f : Nat → Nat → α) (x : α) :
    (if 1 ≤ line ∧ line ≤ ls.length then f (line.toNat - 1) line.toNat else x) = f i (i + 1) := by
  obtain ⟨rfl, hi⟩ := lineIndex?_eq_some_iff.mp h
  rw [if_pos (by omega)]
  rfl

/-- an edit of a line that is not there -/
theorem ite_of_outside {α : Type} (h : lineIndex? line ls.length = none) (x y : α) :
    (if 1 ≤ line ∧ line ≤ ls.length then y else x) = x := by
  have hout := lineIndex?_eq_none_iff.mp h
  exact if_neg (by omega)

theorem lines_replaceLine (hls : ∀ p ∈ ls, '\n' ∉ p) (hne : ls ≠ []) (line : Int) (c : String) :
    lines (unlines (replaceLine line c.toList ls)) = onLines (.replace line c) ls := by
  rw [onLines]
  cases h : lineIndex? line ls.length with
  | none =>
    rw [replaceLine_of_outside h, ite_of_outside h]
    exact lines_eq_iff.mpr ⟨hne, rfl, hls⟩
  | some i =>
    rw [replaceLine_of_index h, ite_of_index h fun j k => ls.take j ++ lines c.toList ++ ls.drop k]
    exact lines_unlines_middle (newline_not_mem_take hls i) (newline_not_mem_drop hls (i + 1)) c.toList

theorem lines_deleteLine (hls : ∀ p ∈ ls, '\n' ∉ p) (hne : ls ≠ []) (line : Int) :
    lines (unlines (deleteLine line ls)) = onLines (.delete line) ls := by
  rw [onLines]
  cases h : lineIndex? line ls.length with
  | none =>
    rw [deleteLine_of_outside h, ite_of_outside h]
    exact lines_eq_iff.mpr ⟨hne, rfl, hls⟩
  | some i =>
    rw [deleteLine_of_index h,
      ite_of_index h fun j k => if ls.length = 1 then [[]] else ls.take j ++ ls.drop k]
    have hi := (lineIndex?_eq_some_iff.mp h).2
    split
    · -- the only line: no line is left, and a text without lines is the empty one
      have hzero : i = 0 := by omega
      obtain ⟨p, rfl⟩ := List.length_eq_one_iff.mp ‹ls.length = 1›
      subst hzero
      exact lines_nil
    · refine lines_eq_iff.mpr ⟨?_, rfl, fun p hp => ?_⟩
      · refine List.ne_nil_of_length_pos ?_
        rw [List.length_append, List.length_take, List.length_drop]
        omega
      · rcases List.mem_append.mp hp with hp | hp
        · exact newline_not_mem_take hls i p hp
        · exact newline_not_mem_drop hls (i + 1) p hp

/-- the lines of a text after an edit are what the edit makes of its lines -/
theorem lines_onChars (e : Edit) (d : List Char) : lines (e.onChars d) = e.onLines (lines d) := by
  have hplain := newline_not_mem_lines d
  have hne := lines_ne_nil d
  cases e with
  | replaceAll c => rfl
  | append c => exact lines_append_seam c.toList
  | prepend c => exact lines_seam_append c.toList
  | insert line c => exact lines_insertLine hplain line c
  | replace line c => exact lines_replaceLine hplain hne line c
  | delete line => exact lines_deleteLine hplain hne line
  | substitute find replacement all => rw [onLines, unlines_lines]; rfl

/-- a line that is not there is neither replaced nor deleted -/
theorem onChars_of_outside (h : lineIndex? line (lines d).length = none) (c : String) :
    (replace line c).onChars d = d ∧ (delete line).onChars d = d := by
  rw [onChars, onChars, replaceLine_of_outside h, deleteLine_of_outside h]
  exact ⟨unlines_lines d, unlines_lines d⟩

theorem apply_of_outside {d : String} (h : lineIndex? line (lines d.toList).length = none) (c : String) :
    (replace line c).apply d = d ∧ (delete line).apply d = d := by
  obtain ⟨hreplace, hdelete⟩ := onChars_of_outside h c
  rw [apply, apply, hreplace, hdelete, String.ofList_toList]
  exact ⟨rfl, rfl⟩

/-! ## any number of edits -/

theorem lines_applyAll (es : List Edit) (d : String) :
    lines (applyAll es d).toList = es.foldl (fun ls e => e.onLines ls) (lines d.toList) := by
  induction es generalizing d with
  | nil => rfl
  | cons e es ih => rw [applyAll_cons, ih, toList_apply, lines_onChars, List.foldl_cons]

/-- the lines of a notepad after edits are what the edits make of its lines, one after the other, each with
the line numbers that the ones before it left; the notepad is these lines, and a line that is not there is
neither replaced nor deleted -/
theorem applyAll_linewise (es : List Edit) (d : String) :
    lines (applyAll es d).toList = es.foldl (fun ls e => e.onLines ls) (lines d.toList) ∧
      (applyAll es d).toList = unlines (es.foldl (fun ls e => e.onLines ls) (lines d.toList)) ∧
      ∀ (line : Int) (c : String), line < 1 ∨ ((lines d.toList).length : Int) < line →
        applyAll [.replace line c] d = d ∧ applyAll [.delete line] d = d := by
  refine ⟨lines_applyAll es d, ?_, fun line c hout => ?_⟩
  · rw [← lines_applyAll, unlines_lines]
  · exact apply_of_outside (lineIndex?_eq_none_iff.mpr hout) c

end Edit

end Debate.Notepad
