import Debate.Notepad.Unchecked

/-!
# Edits as records

* `Edit.toValue`      the object of an edit;
* `Unchecked.read`    the edit that an object asks for, whatever its parts are.
-/

namespace Debate.Notepad

/-- the object of an edit -/
def Edit.toValue (e : Edit) : Value :=
  let record (kind : String) (parts : Fields) : Value := .object (("kind", .text kind) :: parts)
  match e with
  | .replaceAll c => record "replace_all" [("content", .text c)]
  | .append c => record "append" [("content", .text c)]
  | .prepend c => record "prepend" [("content", .text c)]
  | .insert line c => record "insert" [("line", .int line), ("content", .text c)]
  | .replace line c => record "replace" [("line", .int line), ("content", .text c)]
  | .delete line => record "delete" [("line", .int line)]
  | .substitute find replacement all =>
    record "search_replace" [("find", .text find), ("with", .text replacement), ("all", .bool all)]

/-- the edit that an object asks for -/
def Unchecked.read (v : Value) : Except Fault Unchecked := do
  match (← v.at "kind").shown with
  | "replace_all" => return .replaceAll (← v.at "content")
  | "append" => return .append (← v.at "content")
  | "prepend" => return .prepend (← v.at "content")
  | "insert" => return .insert (← v.at "line") (← v.at "content")
  | "replace" => return .replace (← v.at "line") (← v.at "content")
  | "delete" => return .delete (← v.at "line")
  | "search_replace" =>
    return .substitute (← v.at "find") (← v.at "with") ((v.get? "all").getD (.bool false))
  | _ => return .unknown v

end Debate.Notepad
