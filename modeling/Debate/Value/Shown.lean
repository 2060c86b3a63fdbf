import Debate.Number.Shortest
import Debate.Text.Quoted
import Debate.Value

/-!
# Values in messages

How a value appears inside a message of the program: a text as it stands, anything else by its
literal form, in which texts are quoted.

* `Value.literal`   the literal form, texts quoted;
* `Value.shown`     the form in running text;
* `Value.kind`      the name of a value's type.
-/

namespace Debate.Value

open Debate.Number Debate.Text

mutual

/-- the literal form of a value -/
def literal : Value → String
  | .null => "None"
  | .bool true => "True"
  | .bool false => "False"
  | .int n => toString n
  | .float x => x.text
  | .text s => quoted s
  | .list items => "[" ++ String.intercalate ", " (literalItems items) ++ "]"
  | .object fields => "\x7b" ++ String.intercalate ", " (literalFields fields) ++ "\x7d"

/-- the literal forms of the items of a list -/
def literalItems : List Value → List String
  | [] => []
  | v :: rest => literal v :: literalItems rest

/-- the literal forms of the fields of an object -/
def literalFields : List (String × Value) → List String
  | [] => []
  | (k, v) :: rest => (quoted k ++ ": " ++ literal v) :: literalFields rest

end

/-- a value in running text -/
def shown : Value → String
  | .text s => s
  | v => v.literal

/-- the name of a value's type in messages -/
def kind : Value → String
  | .null => "NoneType"
  | .bool _ => "bool"
  | .int _ => "int"
  | .float _ => "float"
  | .text _ => "str"
  | .list _ => "list"
  | .object _ => "dict"

@[simp] theorem shown_text (s : String) : shown (.text s) = s := rfl

example : shown (.list [.text "a", .null, .bool true]) = "['a', None, True]" := by decide +kernel

end Debate.Value
