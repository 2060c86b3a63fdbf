import Debate.Proofs.Linewise

/-!
# Edits that undo each other

A line that is deleted and put back at its place gives the notepad that was there before, and so does a
line that is put in and deleted again, wherever that is. There is one exception: a notepad always has a
line, so deleting the only one leaves an empty line in its place, and what is put back then stands above
that line.

* `Edit.onChars_delete_insert`   a line deleted and put back, if it is not the only one;
* `Edit.onChars_delete_only`     the only line deleted and put back;
* `Edit.onChars_insert_delete`   a line put in and deleted again;
* `Edit.applyAll_undone`         all of them, as edits of a notepad.
-/

namespace Debate.Notepad

open Debate.Text

variable {d c : List Char} {ls : List (List Char)} {line : Int} {i : Nat}

/-! ## lists of lines -/

theorem insertLine_at (h : i ≤ ls.length) (c : List Char) :
    insertLine i c ls = ls.take i ++ c :: ls.drop i := by
  have hclamp : clamp i ls.length = i := by
    rw [clamp]
    omega
  rw [insertLine, hclamp]

/-- a line is put back where it was taken out -/
theorem insertLine_deleteLine (h : ls[i]? = some c) :
    insertLine i c (deleteLine (i + 1) ls) = ls := by
  obtain ⟨hi, rfl⟩ := List.getElem?_eq_some_iff.mp h
  have hlength : (ls.take i).length = i := List.length_take_of_le hi.le
  rw [deleteLine_of_index (lineIndex?_eq_some_iff.mpr ⟨rfl, hi⟩), insertLine_at (by simp [hlength]),
    List.take_left' hlength, List.drop_left' hlength, List.getElem_cons_drop, List.take_append_drop]

/-- a line is taken out where it was put in -/
theorem deleteLine_insertLine (h : i ≤ ls.length) (c : List Char) :
    deleteLine (i + 1) (insertLine i c ls) = ls := by
  have hlength : (ls.take i).length = i := List.length_take_of_le h
  have hindex : lineIndex? (i + 1) (insertLine i c ls).length = some i :=
    lineIndex?_eq_some_iff.mpr ⟨rfl, by rw [length_insertLine]; omega⟩
  rw [deleteLine_of_index hindex, insertLine_at h, List.take_left' hlength, List.append_cons,
    List.drop_left' (by rw [List.length_append, hlength]; rfl), List.take_append_drop]

namespace Edit

/-! ## texts -/

/-- a line that is not the only one, deleted and put back -/
theorem onChars_delete_insert {text : String} (h : (lines d)[i]? = some text.toList)
    (hmany : (lines d).length ≠ 1) :
    (insert i text).onChars ((delete (i + 1)).onChars d) = d := by
  have hi : i < (lines d).length := (List.getElem?_eq_some_iff.mp h).1
  have hleft : lines ((delete (i + 1)).onChars d) = deleteLine (i + 1) (lines d) := by
    rw [lines_onChars, onLines, if_pos (by omega), if_neg hmany,
      deleteLine_of_index (lineIndex?_eq_some_iff.mpr ⟨rfl, hi⟩)]
    rfl
  show unlines (insertLine i text.toList (lines ((delete (i + 1)).onChars d))) = d
  rw [hleft, insertLine_deleteLine h, unlines_lines]

/-- the only line, deleted and put back: it stands above an empty line -/
theorem onChars_delete_only {text : String} (h : lines d = [text.toList]) :
    (insert 0 text).onChars ((delete 1).onChars d) = d ++ ['\n'] := by
  have hd : d = text.toList := by rw [← unlines_lines d, h]; rfl
  have hempty : (delete 1).onChars d = [] := by rw [onChars, h]; rfl
  rw [hempty, hd, onChars, lines_nil]
  exact List.append_nil _

/-- a line put in and deleted again -/
theorem onChars_insert_delete {text : String} (h : i ≤ (lines d).length) (hplain : '\n' ∉ text.toList) :
    (delete (i + 1)).onChars ((insert i text).onChars d) = d := by
  have hput : lines ((insert i text).onChars d) = insertLine i text.toList (lines d) := by
    have hclamp : (max 0 (min ((lines d).length : Int) i)).toNat = i := by omega
    rw [lines_onChars, onLines, hclamp, lines_of_not_mem hplain, insertLine_at h, List.append_assoc]
    rfl
  show unlines (deleteLine (i + 1) (lines ((insert i text).onChars d))) = d
  rw [hput, deleteLine_insertLine h, unlines_lines]

/-! ## notepads -/

/-- a line that is deleted and put back gives the notepad that was there, with an empty line below it if it
was the only line; a line that is put in and deleted again gives the notepad that was there -/
theorem applyAll_undone (d : String) :
    (∀ (line : Int) (c : String), 1 ≤ line → (lines d.toList)[line.toNat - 1]? = some c.toList →
        applyAll [.delete line, .insert (line - 1) c] d =
          if (lines d.toList).length = 1 then d ++ "\n" else d) ∧
      ∀ (line : Int) (c : String), 0 ≤ line → line ≤ (lines d.toList).length → '\n' ∉ c.toList →
        applyAll [.insert line c, .delete (line + 1)] d = d := by
  refine ⟨fun line c hline hc => ?_, fun line c hline hlast hplain => ?_⟩
  · obtain ⟨i, rfl⟩ : ∃ i : Nat, line = i + 1 := ⟨line.toNat - 1, by omega⟩
    rw [show ((i : Int) + 1).toNat - 1 = i by omega] at hc
    have hi : i < (lines d.toList).length := (List.getElem?_eq_some_iff.mp hc).1
    rw [← String.toList_inj, applyAll_cons, applyAll_cons, applyAll_nil, toList_apply, toList_apply,
      add_sub_cancel_right]
    by_cases hone : (lines d.toList).length = 1
    · obtain rfl : i = 0 := by omega
      have honly : lines d.toList = [c.toList] := by
        obtain ⟨p, hp⟩ := List.length_eq_one_iff.mp hone
        rw [hp] at hc ⊢
        exact congrArg (fun x => [x]) (Option.some.inj hc)
      rw [if_pos hone, String.toList_append]
      exact onChars_delete_only honly
    · rw [if_neg hone]
      exact onChars_delete_insert hc hone
  · obtain ⟨i, rfl⟩ : ∃ i : Nat, line = i := ⟨line.toNat, by omega⟩
    rw [← String.toList_inj, applyAll_cons, applyAll_cons, applyAll_nil, toList_apply, toList_apply]
    exact onChars_insert_delete (by omega) hplain

/-- the second of three lines deleted and put back, and a fourth put in and deleted -/
theorem applyAll_undone_three :
    (lines "one\ntwo\nthree".toList)[(2 : Int).toNat - 1]? = some "two".toList ∧
      applyAll [.delete 2, .insert (2 - 1) "two"] "one\ntwo\nthree" = "one\ntwo\nthree" ∧
      (3 : Int) ≤ (lines "one\ntwo\nthree".toList).length ∧ '\n' ∉ "four".toList ∧
      applyAll [.insert 3 "four", .delete (3 + 1)] "one\ntwo\nthree" = "one\ntwo\nthree" := by
  have hlines : lines "one\ntwo\nthree".toList = ["one".toList, "two".toList, "three".toList] :=
    lines_eq_iff.mpr ⟨by decide, by decide, by decide⟩
  obtain ⟨hback, hout⟩ := applyAll_undone "one\ntwo\nthree"
  rw [hlines] at hback hout ⊢
  have hsecond := hback 2 "two" (by decide) rfl
  rw [if_neg (by decide)] at hsecond
  exact ⟨rfl, hsecond, by decide, by decide, hout 3 "four" (by decide) (by decide) (by decide)⟩

/-- the only line is not put back as it was -/
theorem not_undone_only :
    (lines "abc".toList)[(1 : Int).toNat - 1]? = some "abc".toList ∧
      applyAll [.delete 1, .insert (1 - 1) "abc"] "abc" ≠ "abc" := by
  have hlines : lines "abc".toList = ["abc".toList] := lines_of_not_mem (by decide)
  refine ⟨by rw [hlines]; rfl, fun h => ?_⟩
  have hback : (applyAll [.delete 1, .insert (1 - 1) "abc"] "abc").toList = "abc".toList ++ ['\n'] := by
    rw [applyAll_cons, applyAll_cons, applyAll_nil, toList_apply, toList_apply]
    exact onChars_delete_only hlines
  rw [h] at hback
  revert hback
  decide

end Edit

end Debate.Notepad
