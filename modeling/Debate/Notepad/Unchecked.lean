import Debate.Notepad.Edit
import Debate.Value.Access
import Debate.Value.Printer

/-!
# Edits of unchecked type

An edit that was put together by hand may hold a value of any type where a text or a line number
belongs, or be no edit at all. Such an edit is skipped where its parts are of use, and does nothing
where they are not looked at; the notepad goes on with the next one. A replacement of the whole
notepad never looks at its content, so the notepad itself may come to hold a value that is no text;
an edit of single lines, or of a literal, has nothing to work on then. The remark on an edit that is
skipped names the edit, which cannot be done if a number in it is too long to be written.

* `Unchecked`           an edit whose parts have any type;
* `Effect`              what it does: a new notepad, nothing because it is skipped, or a fault;
* `Unchecked.tooLong?`  the first number of an edit that has too many digits;
* `Unchecked.onText`    the effect on a notepad that is a text;
* `Unchecked.onOther`   the effect on a notepad that is none;
* `Unchecked.applyAll`  edits in order, skipping those that cannot be applied;
* `edited`              edits of the right types on a notepad of any type.
-/

namespace Debate.Notepad

open Debate.Text Debate.Number

/-- an edit whose parts have any type -/
inductive Unchecked where
  | replaceAll (content : Value)
  | append (content : Value)
  | prepend (content : Value)
  | insert (line content : Value)
  | replace (line content : Value)
  | delete (line : Value)
  | substitute (find replacement all : Value)
  /-- a value that is no edit -/
  | unknown (value : Value)
  deriving DecidableEq

/-- what an edit of unchecked type does -/
inductive Effect where
  /-- the notepad holds this value -/
  | becomes (document : Value)
  /-- the edit cannot be applied -/
  | skipped
  /-- the edit cannot be applied, and the remark on it cannot be written either -/
  | unnameable
  /-- the notepad is no text and lacks an operation that the edit needs -/
  | fault (operation : String)
  deriving DecidableEq

/-- a line number as a place in a list of lines -/
inductive Place where
  /-- a whole number -/
  | at (line : Int)
  /-- a fractional number, which compares with whole ones but counts no lines -/
  | between (x : Double)
  /-- no number -/
  | nowhere
  deriving DecidableEq

/-- the place that a value names; true and false are one and zero -/
def placeOf : Value → Place
  | .int n => .at n
  | .bool b => .at (if b then 1 else 0)
  | .float x => .between x
  | _ => .nowhere

/-- whether a fractional number compares as the number of one of `n` lines does -/
def isWithin (x : Double) (n : Nat) : Bool := x ≠ .undefined && !x.ltInt 1 && !x.gtInt n

namespace Unchecked

/-- the values that an edit is made of -/
def parts : Unchecked → List Value
  | .replaceAll c | .append c | .prepend c => [c]
  | .insert line c | .replace line c => [line, c]
  | .delete line => [line]
  | .substitute find replacement all => [find, replacement, all]
  | .unknown v => [v]

/-- how many digits the first number of an edit has that is too long to be written, if there is one -/
def tooLong? (e : Unchecked) : Option Nat := e.parts.findSome? Value.tooLong?

/-- the effect of an edit that is of the right types -/
def become (e : Edit) (document : String) : Effect := .becomes (.text (e.apply document))

/-- the effect on a notepad that is a text -/
def onText (document : String) : Unchecked → Effect
  | .replaceAll c => .becomes c
  | .append (.text c) => become (.append c) document
  | .append _ => .skipped
  | .prepend (.text c) => become (.prepend c) document
  | .prepend _ => .skipped
  | .insert line c =>
    let n := (lines document.toList).length
    match placeOf line, c with
    | .at l, .text c => become (.insert l c) document
    | .between x, .text c =>
      if x.ltInt n then
        if x.gtInt 0 then .skipped else become (.insert 0 c) document
      else become (.insert n c) document
    | _, _ => .skipped
  | .replace line c =>
    let n := (lines document.toList).length
    match placeOf line, c with
    | .at l, .text c => become (.replace l c) document
    | .at l, _ => if (lineIndex? l n).isSome then .skipped else .becomes (.text document)
    | .between x, _ => if isWithin x n then .skipped else .becomes (.text document)
    | .nowhere, _ => .skipped
  | .delete line =>
    let n := (lines document.toList).length
    match placeOf line with
    | .at l => become (.delete l) document
    | .between x => if isWithin x n then .skipped else .becomes (.text document)
    | .nowhere => .skipped
  | .substitute find replacement all =>
    if find.isVoid then .becomes (.text document)
    else
      match find, replacement with
      | .text f, .text w => become (.substitute f w (!all.isVoid)) document
      | _, _ => .skipped
  | .unknown _ => .skipped

/-- the effect on a notepad that is no text -/
def onOther (document : Value) : Unchecked → Effect
  | .replaceAll c => .becomes c
  | .append _ | .prepend _ => .skipped
  | .substitute find _ _ => if find.isVoid then .becomes document else .fault "replace"
  | .insert .. | .replace .. | .delete .. | .unknown _ => .fault "split"

/-- the effect with the remark on an edit that is skipped -/
def remarked (e : Unchecked) : Effect → Effect
  | .skipped => if e.tooLong?.isSome then .unnameable else .skipped
  | effect => effect

/-- the effect of an edit on a notepad of any type -/
def effect (document : Value) (e : Unchecked) : Effect :=
  e.remarked (match document with
    | .text d => e.onText d
    | d => e.onOther d)

/-- the notepad after one edit; nothing if the edit ends in a fault -/
def apply (document : Value) (e : Unchecked) : Option Value :=
  match e.effect document with
  | .becomes d => some d
  | .skipped => some document
  | .unnameable | .fault _ => none

/-- the notepad after edits, in order; nothing if one of them ends in a fault -/
def applyAll (document : Value) (es : List Unchecked) : Option Value := es.foldlM apply document

@[simp] theorem applyAll_nil (document : Value) : applyAll document [] = some document := rfl

theorem applyAll_cons (document : Value) (e : Unchecked) (es : List Unchecked) :
    applyAll document (e :: es) = (apply document e).bind fun d => applyAll d es := rfl

theorem applyAll_append (document : Value) (es fs : List Unchecked) :
    applyAll document (es ++ fs) = (applyAll document es).bind fun d => applyAll d fs :=
  List.foldlM_append

/-- an edit as one of unchecked type -/
def ofEdit : Edit → Unchecked
  | .replaceAll c => .replaceAll (.text c)
  | .append c => .append (.text c)
  | .prepend c => .prepend (.text c)
  | .insert line c => .insert (.int line) (.text c)
  | .replace line c => .replace (.int line) (.text c)
  | .delete line => .delete (.int line)
  | .substitute find replacement all => .substitute (.text find) (.text replacement) (.bool all)

/-- an edit of the right types does what it does when its types are checked -/
theorem onText_ofEdit (e : Edit) (document : String) :
    (ofEdit e).onText document = become e document := by
  cases e with
  | substitute find replacement all =>
    cases h : find.isEmpty with
    | true =>
      have hf : find = "" := by simpa using h
      subst hf
      simp [ofEdit, onText, become, Edit.apply, Edit.onChars, Notepad.substitute]
    | false => cases all <;> simp [ofEdit, onText, Value.isVoid, h]
  | replaceAll c => simp [ofEdit, onText, become, Edit.apply, Edit.onChars]
  | _ => rfl

theorem apply_ofEdit (e : Edit) (document : String) :
    apply (.text document) (ofEdit e) = some (.text (e.apply document)) := by
  rw [apply, effect, onText_ofEdit]
  rfl

/-- edits of the right types are all applied -/
theorem applyAll_ofEdit (es : List Edit) (document : String) :
    applyAll (.text document) (es.map ofEdit) = some (.text (Edit.applyAll es document)) := by
  induction es generalizing document with
  | nil => rfl
  | cons e es ih =>
    rw [List.map_cons, applyAll_cons, apply_ofEdit, Option.bind_some, ih, Edit.applyAll_cons]

end Unchecked

/-! ## edits of the right types -/

/-- the remark on an edit that is skipped because the notepad is no text -/
def skipRemark (document : Value) (e : Edit) : String :=
  let remark (kind content reason : String) :=
    "Skipping notepad operation " ++ kind ++ "(content=" ++ quoted content ++ "): " ++ reason
  let unlike (whole part : String) :=
    "can only concatenate " ++ whole ++ " (not \"" ++ part ++ "\") to " ++ whole
  match e with
  | .append c =>
    remark "Append" c (match document with
      | .list _ => unlike "list" "str"
      | d => "unsupported operand type(s) for +: '" ++ d.kind ++ "' and 'str'")
  | .prepend c => remark "Prepend" c (unlike "str" document.kind)
  | _ => ""

/-- the notepad after edits of the right types, and remarks on those that are skipped -/
def edited (document : Value) : List Edit → Except Fault Value × List String
  | [] => (.ok document, [])
  | e :: es =>
    match (Unchecked.ofEdit e).effect document with
    | .becomes d => edited d es
    | .skipped =>
      let r := edited document es
      (r.1, skipRemark document e :: r.2)
    | .unnameable => (.error (.badValue Value.wideIntegerText), [])
    | .fault operation => (.error (document.lacks operation), [])

/-- edits of the right types are all made on a notepad that is a text -/
theorem edited_text (document : String) (es : List Edit) :
    edited (.text document) es = (.ok (.text (Edit.applyAll es document)), []) := by
  induction es generalizing document with
  | nil => rfl
  | cons e es ih =>
    have h : (Unchecked.ofEdit e).effect (.text document) = Unchecked.become e document :=
      congrArg (Unchecked.ofEdit e).remarked (Unchecked.onText_ofEdit e document)
    simp only [edited, h, Unchecked.become, ih, Edit.applyAll_cons]

end Debate.Notepad
