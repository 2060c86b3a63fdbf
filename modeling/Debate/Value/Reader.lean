import Debate.Value

/-!
# Reading values

A JSON text is read by recursive descent over its characters. Besides the standard's texts the
names `NaN`, `Infinity` and `-Infinity` are numbers; a byte order mark in front is refused, as are
controls inside texts. Half of a surrogate pair stands for U+FFFD, for it is no character.

The recursion is bounded by fuel that the length of the text always suffices for: every step but the
first into a list or an object uses up a character.

* `ReadError`        why a text holds no value;
* `Value.readText`   the characters of a text up to its closing quote;
* `Value.readNumber` the longest number at the start of a text;
* `Value.readAt`     the value at the start of a text, and what follows it;
* `Value.ofJson`     the value of a whole text.
-/

namespace Debate

open Debate.Number

/-- why a text holds no value -/
inductive ReadError where
  | malformed
  /-- an integer has more than 4300 digits -/
  | hugeInteger (digits : Nat)
  deriving DecidableEq, Repr

namespace Value

/-- blanks between the parts of a value -/
def isJsonBlank (c : Char) : Bool := c == ' ' || c == '\n' || c == '\t' || c == '\r'

/-- the text from its first character that is no blank -/
def skipBlanks (cs : List Char) : List Char := cs.dropWhile isJsonBlank

/-! ## texts -/

/-- the value of a hexadecimal digit -/
def hexValue? (c : Char) : Option Nat :=
  if '0' ≤ c ∧ c ≤ '9' then some (c.toNat - 48)
  else if 'a' ≤ c ∧ c ≤ 'f' then some (c.toNat - 87)
  else if 'A' ≤ c ∧ c ≤ 'F' then some (c.toNat - 55)
  else none

/-- four hexadecimal digits -/
def hexUnit? (a b c d : Char) : Option Nat := do
  let w ← hexValue? a
  let x ← hexValue? b
  let y ← hexValue? c
  let z ← hexValue? d
  some (((w * 16 + x) * 16 + y) * 16 + z)

/-- the character of a single unit of UTF-16 -/
def unitChar (n : Nat) : Char := if 0xD800 ≤ n ∧ n < 0xE000 then '\ufffd' else Char.ofNat n

/-- the character of a surrogate pair -/
def pairChar (high low : Nat) : Char :=
  Char.ofNat (0x10000 + (high - 0xD800) * 0x400 + (low - 0xDC00))

/-- the character that an escape other than a unit stands for -/
def escaped? (c : Char) : Option Char :=
  match c with
  | '\"' => some '\"'
  | '\\' => some '\\'
  | '/' => some '/'
  | 'b' => some '\x08'
  | 'f' => some '\x0c'
  | 'n' => some '\n'
  | 'r' => some '\r'
  | 't' => some '\t'
  | _ => none

/-- the characters read so far, in reverse, after half of a pair that stayed alone -/
def flush (high : Option Nat) (acc : List Char) : List Char :=
  match high with
  | some _ => '\ufffd' :: acc
  | none => acc

/-- the characters read so far, in reverse, after one more unit of UTF-16 that is no high half -/
def pushUnit (high : Option Nat) (acc : List Char) (n : Nat) : List Char :=
  match high with
  | some h => if 0xDC00 ≤ n ∧ n < 0xE000 then pairChar h n :: acc else unitChar n :: '\ufffd' :: acc
  | none => unitChar n :: acc

/-- the characters of a text up to its closing quote, after those read before (in reverse, with
the high half of a pair that waits for its low half), and what follows the quote -/
def readText (acc : List Char) (high : Option Nat) : List Char → Option (String × List Char)
  | [] => none
  | '\"' :: rest => some (String.ofList (flush high acc).reverse, rest)
  | '\\' :: 'u' :: a :: b :: c :: d :: rest =>
    match hexUnit? a b c d with
    | none => none
    | some n =>
      if 0xD800 ≤ n ∧ n < 0xDC00 then readText (flush high acc) (some n) rest
      else readText (pushUnit high acc n) none rest
  | '\\' :: c :: rest =>
    match escaped? c with
    | some e => readText (e :: flush high acc) none rest
    | none => none
  | c :: rest => if c.toNat < 32 then none else readText (c :: flush high acc) none rest

/-! ## numbers -/

/-- the digits at the start of a text, and what follows them -/
def spanDigits (cs : List Char) : List Char × List Char :=
  (cs.takeWhile Char.isDigit, cs.dropWhile Char.isDigit)

/-- the natural that digits write -/
def digitsValue (ds : List Char) : Nat := ds.foldl (fun n d => 10 * n + (d.toNat - 48)) 0

/-- the fraction at the start of a text: a point and at least one digit -/
def readFraction : List Char → Option (List Char × List Char)
  | '.' :: rest =>
    let r := spanDigits rest
    if r.1.isEmpty then none else some r
  | _ => none

/-- the exponent at the start of a text -/
def readExponent : List Char → Option (Int × List Char)
  | e :: rest =>
    if e = 'e' ∨ e = 'E' then
      let signed : Bool × List Char := match rest with
        | '-' :: r => (true, r)
        | '+' :: r => (false, r)
        | r => (false, r)
      let ds := spanDigits signed.2
      if ds.1.isEmpty then none
      else
        let n : Int := digitsValue ds.1
        some (if signed.1 then -n else n, ds.2)
    else none
  | [] => none

/-- the whole part of a number: a lone zero, or digits that start with another -/
def readWhole : List Char → Option (List Char × List Char)
  | '0' :: rest => some (['0'], rest)
  | cs =>
    let r := spanDigits cs
    if r.1.isEmpty then none else some r

/-- an integer of at most 4300 digits -/
def wholeNumber (negative : Bool) (ds : List Char) : Except ReadError Value :=
  if ds.length > 4300 then .error (.hugeInteger ds.length)
  else
    let n : Int := digitsValue ds
    .ok (.int (if negative then -n else n))

/-- the longest number at the start of a text without its sign -/
def readUnsigned (negative : Bool) (cs : List Char) : Except ReadError (Value × List Char) :=
  match readWhole cs with
  | none => .error .malformed
  | some (whole, rest) =>
    let fraction := readFraction rest
    let rest := (fraction.map (·.2)).getD rest
    let exponent := readExponent rest
    let rest := (exponent.map (·.2)).getD rest
    match fraction, exponent with
    | none, none => (wholeNumber negative whole).map (·, rest)
    | _, _ =>
      let places := (fraction.map (·.1)).getD []
      let power := (exponent.map (·.1)).getD 0
      .ok (.float (.ofDecimal negative (digitsValue (whole ++ places)) (power - places.length)), rest)

/-- the longest number at the start of a text -/
def readNumber : List Char → Except ReadError (Value × List Char)
  | '-' :: 'I' :: 'n' :: 'f' :: 'i' :: 'n' :: 'i' :: 't' :: 'y' :: rest =>
    .ok (.float (.infinite true), rest)
  | '-' :: rest => readUnsigned true rest
  | cs => readUnsigned false cs

/-! ## values -/

mutual

/-- the value at the start of a text, and what follows it -/
def readAt : Nat → List Char → Except ReadError (Value × List Char)
  | 0, _ => .error .malformed
  | fuel + 1, cs =>
    match cs with
    | '\"' :: rest =>
      match readText [] none rest with
      | some (s, rest) => .ok (.text s, rest)
      | none => .error .malformed
    | '[' :: rest =>
      match skipBlanks rest with
      | ']' :: rest => .ok (.list [], rest)
      | rest => (readItems fuel rest).map fun r => (.list r.1, r.2)
    | '\x7b' :: rest =>
      match skipBlanks rest with
      | '\x7d' :: rest => .ok (.object [], rest)
      | rest => (readFields fuel rest).map fun r => (.object (Fields.ofPairs r.1), r.2)
    | 'n' :: 'u' :: 'l' :: 'l' :: rest => .ok (.null, rest)
    | 't' :: 'r' :: 'u' :: 'e' :: rest => .ok (.bool true, rest)
    | 'f' :: 'a' :: 'l' :: 's' :: 'e' :: rest => .ok (.bool false, rest)
    | 'N' :: 'a' :: 'N' :: rest => .ok (.float .undefined, rest)
    | 'I' :: 'n' :: 'f' :: 'i' :: 'n' :: 'i' :: 't' :: 'y' :: rest =>
      .ok (.float (.infinite false), rest)
    | cs => readNumber cs

/-- the items of a list from its first one to its closing bracket -/
def readItems : Nat → List Char → Except ReadError (List Value × List Char)
  | 0, _ => .error .malformed
  | fuel + 1, cs => do
    let (v, rest) ← readAt fuel cs
    match skipBlanks rest with
    | ']' :: rest => .ok ([v], rest)
    | ',' :: rest => do
      let (vs, rest) ← readItems fuel (skipBlanks rest)
      .ok (v :: vs, rest)
    | _ => .error .malformed

/-- the fields of an object from its first one to its closing brace -/
def readFields : Nat → List Char → Except ReadError (List (String × Value) × List Char)
  | 0, _ => .error .malformed
  | fuel + 1, cs => do
    match cs with
    | '\"' :: rest =>
      match readText [] none rest with
      | none => .error .malformed
      | some (k, rest) =>
        match skipBlanks rest with
        | ':' :: rest => do
          let (v, rest) ← readAt fuel (skipBlanks rest)
          match skipBlanks rest with
          | '\x7d' :: rest => .ok ([(k, v)], rest)
          | ',' :: rest => do
            let (fs, rest) ← readFields fuel (skipBlanks rest)
            .ok ((k, v) :: fs, rest)
          | _ => .error .malformed
        | _ => .error .malformed
    | _ => .error .malformed

end

/-- the value of a whole text -/
def ofChars (cs : List Char) : Except ReadError Value := do
  let (v, rest) ← readAt (2 * cs.length + 2) (skipBlanks cs)
  if (skipBlanks rest).isEmpty then .ok v else .error .malformed

/-- the wording for an integer with too many digits -/
def hugeIntegerText (digits : Nat) : String :=
  "Exceeds the limit (4300 digits) for integer string conversion: value has " ++
    toString digits ++ " digits; use sys.set_int_max_str_digits() to increase the limit"

/-- the value of a JSON text -/
def ofJson (s : String) : Except ReadError Value := ofChars s.toList

example : ofChars "[1, -0, 1.5e1]".toList =
    .ok (.list [.int 1, .int 0, .float (.ofDecimal false 15 0)]) := by cbv

end Value

end Debate
