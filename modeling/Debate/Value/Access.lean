import Debate.Text.Split
import Debate.Value.Comparison

/-!
# Looking into unchecked values

The replies of a service are values of any type. Each way of looking into one has a fault for the
values that it does not apply to.

* `Value.fields`       the fields of an object;
* `Value.length`       how much a value is made of;
* `Value.elements`     what a value is made of;
* `Value.first`        the first element;
* `Value.at`           the value of a key that must be there;
* `Value.mentions`     whether a text occurs in a value;
* `Value.concat`       texts put together.
-/

namespace Debate.Value

open Debate.Text Debate.Number

/-- the fault of a value that lacks an operation -/
def lacks (v : Value) (operation : String) : Fault :=
  .unsupported ("'" ++ v.kind ++ "' object has no attribute '" ++ operation ++ "'")

/-- the fields of an object -/
def fields (v : Value) : Except Fault Fields :=
  match v.fields? with
  | some fs => .ok fs
  | none => .error (v.lacks "get")

/-- how much a value is made of: the characters of a text, the items of a list, the fields of an
object -/
def length : Value → Except Fault Nat
  | .text s => .ok s.length
  | .list items => .ok items.length
  | .object fs => .ok fs.length
  | v => .error (.unsupported ("object of type '" ++ v.kind ++ "' has no len()"))

@[simp] theorem length_text (s : String) : length (.text s) = .ok s.length := rfl

/-- what a value is made of: the items of a list, the characters of a text, the keys of an object -/
def elements : Value → Except Fault (List Value)
  | .list items => .ok items
  | .text s => .ok (s.toList.map fun c => .text (String.singleton c))
  | .object fs => .ok (fs.map fun f => .text f.1)
  | v => .error (.unsupported ("'" ++ v.kind ++ "' object is not iterable"))

/-- the first element of a value -/
def first : Value → Except Fault Value
  | .list (v :: _) => .ok v
  | .list [] => .error (.unsupported "list index out of range")
  | .text s =>
    match s.toList with
    | c :: _ => .ok (.text (String.singleton c))
    | [] => .error (.unsupported "string index out of range")
  | .object _ => .error (.missingKey (.int 0))
  | v => .error (.unsupported ("'" ++ v.kind ++ "' object is not subscriptable"))

/-- the value of a key that must be there -/
def «at» (v : Value) (key : String) : Except Fault Value :=
  match v with
  | .object fs =>
    match Fields.get? fs key with
    | some x => .ok x
    | none => .error (.missingKey (.text key))
  | .list _ => .error (.unsupported "list indices must be integers or slices, not str")
  | .text _ => .error (.unsupported "string indices must be integers, not 'str'")
  | v => .error (.unsupported ("'" ++ v.kind ++ "' object is not subscriptable"))

/-- whether a text occurs in a text, among the items of a list, or among the keys of an object -/
def mentions (v : Value) (s : String) : Except Fault Bool :=
  match v with
  | .text t => .ok (contains s.toList t.toList)
  | .list items => .ok (isAmong (.text s) items)
  | .object fs => .ok (Fields.has fs s)
  | v => .error (.unsupported ("argument of type '" ++ v.kind ++ "' is not iterable"))

/-- texts put together with a text between each two; the first value that is no text is a fault -/
def concatFrom (separator : String) (n : Nat) : List Value → Except Fault (List String)
  | [] => .ok []
  | .text s :: vs => (concatFrom separator (n + 1) vs).map (s :: ·)
  | v :: _ => .error (.unsupported
      ("sequence item " ++ toString n ++ ": expected str instance, " ++ v.kind ++ " found"))

/-- texts put together with a text between each two -/
def concat (separator : String) (vs : List Value) : Except Fault String :=
  (concatFrom separator 0 vs).map separator.intercalate

end Debate.Value
