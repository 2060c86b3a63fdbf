import Debate.Number.Shortest
import Debate.Text.Quoted
import Debate.Value

/-!
# Writing values

Two layouts of JSON: on one line, with a blank after each comma and colon, and indented by two
blanks a level. Only the quote, the backslash and the controls below U+0020 are escaped; every other
character stands as it is.

* `Value.jsonText`     a text between quotes;
* `Value.compact`      a value on one line;
* `Value.indented`     a value over several lines;
* `Value.keyText`      a value as the key of a field;
* `Value.tooLong?`     the first integer of a value that has too many digits.
-/

namespace Debate.Value

open Debate.Number Debate.Text

/-! ## texts and numbers -/

/-- one character of a text -/
def jsonChar (c : Char) : List Char :=
  if c = '\"' then ['\\', '\"']
  else if c = '\\' then ['\\', '\\']
  else if c = '\n' then ['\\', 'n']
  else if c = '\r' then ['\\', 'r']
  else if c = '\t' then ['\\', 't']
  else if c = '\x08' then ['\\', 'b']
  else if c = '\x0c' then ['\\', 'f']
  else if c.toNat < 32 then '\\' :: 'u' :: hexDigits 4 c.toNat
  else [c]

/-- a text between quotes -/
def jsonText (s : String) : List Char := '\"' :: s.toList.flatMap jsonChar ++ ['\"']

/-- an integer in decimal -/
def jsonInt (n : Int) : List Char :=
  if n < 0 then '-' :: Nat.toDigits 10 n.natAbs else Nat.toDigits 10 n.natAbs

/-- a double as its shortest decimal; the numbers without one have names -/
def jsonFloat : Double → List Char
  | .finite s m e => if s then '-' :: decimal m e else decimal m e
  | .infinite s => (if s then "-Infinity" else "Infinity").toList
  | .undefined => "NaN".toList

/-! ## one line -/

mutual

/-- a value on one line -/
def compact : Value → List Char
  | .null => ['n', 'u', 'l', 'l']
  | .bool true => ['t', 'r', 'u', 'e']
  | .bool false => ['f', 'a', 'l', 's', 'e']
  | .int n => jsonInt n
  | .float x => jsonFloat x
  | .text s => jsonText s
  | .list items => '[' :: compactItems items ++ [']']
  | .object fields => '\x7b' :: compactFields fields ++ ['\x7d']

/-- the items of a list, separated by commas -/
def compactItems : List Value → List Char
  | [] => []
  | [v] => compact v
  | v :: w :: rest => compact v ++ ',' :: ' ' :: compactItems (w :: rest)

/-- the fields of an object, separated by commas -/
def compactFields : List (String × Value) → List Char
  | [] => []
  | [(k, v)] => jsonText k ++ ':' :: ' ' :: compact v
  | (k, v) :: f :: rest => jsonText k ++ ':' :: ' ' :: compact v ++ ',' :: ' ' :: compactFields (f :: rest)

end

/-! ## several lines -/

/-- the start of a line of the given depth -/
def newline (depth : Nat) : List Char := '\n' :: List.replicate (2 * depth) ' '

mutual

/-- a value over several lines; what is empty stays on one -/
def indentedAt (depth : Nat) : Value → List Char
  | .list [] => ['[', ']']
  | .list (v :: rest) =>
    '[' :: indentedItems (depth + 1) (v :: rest) ++ newline depth ++ [']']
  | .object [] => ['\x7b', '\x7d']
  | .object (f :: rest) =>
    '\x7b' :: indentedFields (depth + 1) (f :: rest) ++ newline depth ++ ['\x7d']
  | .null => compact .null
  | .bool b => compact (.bool b)
  | .int n => compact (.int n)
  | .float x => compact (.float x)
  | .text s => compact (.text s)

/-- the items of a list, each on its own line -/
def indentedItems (depth : Nat) : List Value → List Char
  | [] => []
  | [v] => newline depth ++ indentedAt depth v
  | v :: w :: rest => newline depth ++ indentedAt depth v ++ ',' :: indentedItems depth (w :: rest)

/-- the fields of an object, each on its own line -/
def indentedFields (depth : Nat) : List (String × Value) → List Char
  | [] => []
  | [(k, v)] => newline depth ++ jsonText k ++ ':' :: ' ' :: indentedAt depth v
  | (k, v) :: f :: rest =>
    newline depth ++ jsonText k ++ ':' :: ' ' :: indentedAt depth v ++ ',' :: indentedFields depth (f :: rest)

end

/-- a value over several lines -/
def indented (v : Value) : List Char := indentedAt 0 v

/-- a value on one line, as a text -/
def toCompact (v : Value) : String := String.ofList v.compact

/-- a value over several lines, as a text -/
def toIndented (v : Value) : String := String.ofList v.indented

/-- a value as the key of a field: a text as it stands, anything else as it is written -/
def keyText : Value → String
  | .text s => s
  | v => v.toCompact

/-! ## integers that are too long -/

/-- how many digits an integer has, if there are too many to write or to read it -/
def tooManyDigits? (n : Int) : Option Nat :=
  if (Nat.toDigits 10 n.natAbs).length > 4300 then some (Nat.toDigits 10 n.natAbs).length else none

mutual

/-- how many digits the first integer has that is too long, if there is one -/
def tooLong? : Value → Option Nat
  | .int n => tooManyDigits? n
  | .list vs => tooLongItem? vs
  | .object fs => tooLongField? fs
  | .null | .bool _ | .float _ | .text _ => none

/-- the same for the items of a list -/
def tooLongItem? : List Value → Option Nat
  | [] => none
  | v :: vs => (tooLong? v).or (tooLongItem? vs)

/-- the same for the fields of an object -/
def tooLongField? : List (String × Value) → Option Nat
  | [] => none
  | f :: fs => (tooLong? f.2).or (tooLongField? fs)

end

/-- the wording for an integer that is too long to be written -/
def wideIntegerText : String :=
  "Exceeds the limit (4300 digits) for integer string conversion; " ++
    "use sys.set_int_max_str_digits() to increase the limit"

example : compact (.object [("a", .list [.int (-1), .null]), ("b", .object [])]) =
    "\x7b\"a\": [-1, null], \"b\": \x7b\x7d\x7d".toList := by decide +kernel
example : indented (.list [.int 1, .list []]) = "[\n  1,\n  []\n]".toList := by decide +kernel

end Debate.Value
