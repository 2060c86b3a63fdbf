import Debate.Notepad.Edit
import Debate.Notepad.Tag
import Debate.Number.Numeral
import Debate.Text.Blank
import Debate.Text.Quoted

/-!
# Replies

A reply says something and edits the notepad: its tags are the edits, in order, and the text outside
the tags is what is said. A tag whose name is unknown, or whose attributes do not fit its name, is
dropped. A line attribute that looks like a number but is none spoils the whole reply.

* `BadLine`          a line attribute that spoils the reply;
* `Line.read`        the number of a line attribute;
* `Tag.edit`         the edit of a tag;
* `Reply.read`       a reply, as what it says and the edits it makes;
* `Reply.remarks`    the reasons for which tags were dropped.
-/

namespace Debate.Notepad

open Debate.Text Debate.Number

/-- a line attribute that looks like a number but is none -/
structure BadLine where
  written : String
  deriving DecidableEq, Repr

/-- the wording of the error; of a long attribute only the start is shown -/
def BadLine.message (e : BadLine) : String :=
  "invalid literal for int() with base 10: " ++ String.ofList ((quoted e.written).toList.take 200)

/-! ## line attributes -/

namespace Line

/-- one to eighteen digits after at most one sign, with blanks around them -/
def isNumberLike (cs : List Char) : Bool :=
  let body := trimChars cs
  let digits := match body with
    | '+' :: ds | '-' :: ds => ds
    | ds => ds
  digits.all Char.isDigit && 1 ≤ digits.length && digits.length ≤ 18

/-- the number of a line attribute; nothing if it does not even look like a number -/
def read (value : String) : Except BadLine (Option Int) :=
  if isNumberLike value.toList then
    match readInteger? value with
    | some n => .ok (some n)
    | none => .error ⟨value⟩
  else .ok none

example : (read " +7 ").toOption = some (some 7) := by decide +kernel
example : (read "seven").toOption = some none := by decide +kernel
example : (read "7\x1c").toOption = none := by decide +kernel

end Line

/-! ## tags -/

namespace Tag

/-- the number in a tag's line attribute -/
def line (t : Tag) : Except BadLine (Option Int) :=
  match t.attribute? "line" with
  | some value => Line.read value
  | none => .ok none

/-- the content of a tag, as a text -/
def contentText (t : Tag) : String := String.ofList t.content

/-- the replacement that a tag's attributes ask for -/
def substitution (t : Tag) : Option Edit :=
  match t.attribute? "find", t.attribute? "with" with
  | some find, some replacement =>
    if find.isEmpty then none
    else
      let all := ((t.attribute? "all").getD "").toList.map foldCase = "true".toList
      some (.substitute find replacement all)
  | _, _ => none

/-- the edit of a tag; nothing for a tag that is dropped -/
def edit (t : Tag) : Except BadLine (Option Edit) :=
  match t.name with
  | "replace-all" => .ok (some (.replaceAll t.contentText))
  | "append" => .ok (some (.append t.contentText))
  | "prepend" => .ok (some (.prepend t.contentText))
  | "insert" => t.line.map (Option.map fun l => .insert l t.contentText)
  | "replace" => t.line.map (Option.map fun l => .replace l t.contentText)
  | "delete" => t.line.map (Option.map .delete)
  | "search-replace" => .ok t.substitution
  | _ => .ok none

/-- why a tag is dropped -/
def remark (t : Tag) : String :=
  match t.name with
  | "insert" | "replace" | "delete" =>
    "Dropping np-" ++ t.name ++ ": missing or non-numeric line attribute"
  | "search-replace" => "Dropping np-search-replace: 'find' and 'with' are required"
  | name => "Ignoring unknown notepad tag np-" ++ name

end Tag

/-! ## replies -/

/-- a reply: what it says, and the edits it makes -/
structure Reply where
  spoken : String
  edits : List Edit
  deriving DecidableEq, Repr

namespace Reply

/-- the edits of tags, in order; the first tag that spoils the reply ends the reading -/
def editsOf : List Tag → Except BadLine (List Edit)
  | [] => .ok []
  | t :: ts => do
    let e ← t.edit
    let es ← editsOf ts
    .ok (e.toList ++ es)

/-- a reply as what it says and the edits it makes -/
def read (raw : String) : Except BadLine Reply :=
  let cs := raw.toList
  (editsOf (tags cs)).map fun edits => ⟨String.ofList (trimChars (residual cs)), edits⟩

/-- why tags are dropped, in the order of the tags, up to one that spoils the reply -/
def remarksOf : List Tag → List String
  | [] => []
  | t :: ts =>
    match t.edit with
    | .ok (some _) => remarksOf ts
    | .ok none => t.remark :: remarksOf ts
    | .error _ => []

/-- why tags of a reply are dropped -/
def remarks (raw : String) : List String := remarksOf (tags raw.toList)

end Reply

end Debate.Notepad
