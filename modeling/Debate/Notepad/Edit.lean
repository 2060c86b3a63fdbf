import Debate.Text.Split

/-!
# Edits of the notepad

The notepad is a text. An edit replaces it, adds to one of its ends, changes one of its lines, or
replaces a literal in it. Lines are the pieces between line feeds, numbered from one; a line that
does not exist is left alone, so every edit of every text succeeds.

* `Edit`             the edits;
* `insertLine`, `replaceLine`, `deleteLine`   an edit of a single line, on the list of lines;
* `Edit.onChars`     an edit of a text;
* `Edit.applyAll`    edits in order, each on the result of the one before.
-/

namespace Debate.Notepad

open Debate.Text

/-- one edit of the notepad -/
inductive Edit where
  /-- a new text -/
  | replaceAll (content : String)
  /-- a text below the present one -/
  | append (content : String)
  /-- a text above the present one -/
  | prepend (content : String)
  /-- a text below a line; line zero is above the first -/
  | insert (line : Int) (content : String)
  /-- a text in place of a line -/
  | replace (line : Int) (content : String)
  /-- a line taken out -/
  | delete (line : Int)
  /-- a literal replaced, at its first occurrence or at all of them -/
  | substitute (find replacement : String) (all : Bool)
  deriving DecidableEq, Repr

/-! ## lines -/

/-- a position between lines, moved into the range of a list -/
def clamp (line : Int) (n : Nat) : Nat := min n line.toNat

/-- a piece put at a position of a list -/
def insertLine (line : Int) (content : List Char) (ls : List (List Char)) : List (List Char) :=
  let p := clamp line ls.length
  ls.take p ++ content :: ls.drop p

/-- the place of a line in a list, if it exists -/
def lineIndex? (line : Int) (n : Nat) : Option Nat :=
  if 1 ≤ line ∧ line ≤ n then some (line.toNat - 1) else none

/-- a line in place of another -/
def replaceLine (line : Int) (content : List Char) (ls : List (List Char)) : List (List Char) :=
  match lineIndex? line ls.length with
  | some i => ls.set i content
  | none => ls

/-- a list without one of its lines -/
def deleteLine (line : Int) (ls : List (List Char)) : List (List Char) :=
  match lineIndex? line ls.length with
  | some i => ls.eraseIdx i
  | none => ls

theorem clamp_le (line : Int) (n : Nat) : clamp line n ≤ n := Nat.min_le_left _ _

theorem lineIndex?_eq_some_iff {line : Int} {n i : Nat} :
    lineIndex? line n = some i ↔ line = i + 1 ∧ i < n := by
  unfold lineIndex?
  split <;> simp only [Option.some.injEq, reduceCtorEq, false_iff] <;> omega

theorem lineIndex?_eq_none_iff {line : Int} {n : Nat} :
    lineIndex? line n = none ↔ line < 1 ∨ (n : Int) < line := by
  unfold lineIndex?
  split <;> simp only [reduceCtorEq, false_iff, true_iff] <;> omega

theorem length_insertLine (line : Int) (content : List Char) (ls : List (List Char)) :
    (insertLine line content ls).length = ls.length + 1 := by
  have := clamp_le line ls.length
  simp only [insertLine, List.length_append, List.length_take, List.length_cons, List.length_drop]
  omega

theorem length_replaceLine (line : Int) (content : List Char) (ls : List (List Char)) :
    (replaceLine line content ls).length = ls.length := by
  unfold replaceLine
  split <;> simp

/-! ## texts -/

/-- the line feed between two texts, unless the present one is empty -/
def seam (document : List Char) : List Char := if document.isEmpty then [] else ['\n']

/-- a literal replaced; the empty literal is found nowhere -/
def substitute (find replacement : List Char) (all : Bool) (document : List Char) : List Char :=
  if find.isEmpty then document
  else if all then replaceAll find replacement document
  else replaceFirst find replacement document

namespace Edit

/-- a text after an edit -/
def onChars : Edit → List Char → List Char
  | .replaceAll c, _ => c.toList
  | .append c, d => d ++ seam d ++ c.toList
  | .prepend c, d => c.toList ++ seam d ++ d
  | .insert line c, d => unlines (insertLine line c.toList (lines d))
  | .replace line c, d => unlines (replaceLine line c.toList (lines d))
  | .delete line, d => unlines (deleteLine line (lines d))
  | .substitute find replacement all, d =>
    Notepad.substitute find.toList replacement.toList all d

/-- the notepad after an edit -/
def apply (e : Edit) (document : String) : String := String.ofList (e.onChars document.toList)

/-- the notepad after edits, in order -/
def applyAll (es : List Edit) (document : String) : String :=
  es.foldl (fun d e => e.apply d) document

@[simp] theorem applyAll_nil (document : String) : applyAll [] document = document := rfl

@[simp] theorem applyAll_cons (e : Edit) (es : List Edit) (document : String) :
    applyAll (e :: es) document = applyAll es (e.apply document) := rfl

theorem applyAll_append (es fs : List Edit) (document : String) :
    applyAll (es ++ fs) document = applyAll fs (applyAll es document) := by
  simp [applyAll, List.foldl_append]

theorem toList_apply (e : Edit) (document : String) :
    (e.apply document).toList = e.onChars document.toList := String.toList_ofList

example : (Edit.insert 1 "b").apply "a\nc" = "a\nb\nc" := by cbv
example : (Edit.delete 1).apply "a" = "" := by cbv
example : (Edit.append "a").apply "" = "a" := by cbv
example : (Edit.substitute "aa" "b" true).apply "aaaaa" = "bba" := by cbv

end Edit

end Debate.Notepad
