import Debate.Text.Blank
import Debate.Text.Digit

/-!
# Reading an integer

An integer may be written with a sign, in the decimal digits of any script, with single low lines
between its digits and blanks around it. The information separators U+001C to U+001F count as
blanks elsewhere but not around a numeral, and a numeral has at most 4300 digits.

* `isPadding`        the blanks that may stand around a numeral;
* `readDigits?`      digits with single low lines between them;
* `readInteger?`     the whole numeral.
-/

namespace Debate.Number

open Debate.Text

/-- a blank that may stand around a numeral -/
def isPadding (c : Char) : Bool := isBlank c && !(28 ≤ c.toNat && c.toNat ≤ 31)

/-- the value of digits with single low lines between them, read onto the digits before them -/
def readDigits? (value : Nat) : List Char → Option Nat
  | [] => some value
  | ['_'] => none
  | '_' :: c :: cs => do readDigits? (10 * value + (← digitValue? c)) cs
  | c :: cs => do readDigits? (10 * value + (← digitValue? c)) cs

/-- an unsigned numeral: a digit first, and no more than 4300 of them -/
def readNatural? : List Char → Option Nat
  | [] => none
  | c :: cs =>
    if (cs.filter (· ≠ '_')).length < 4300 then do readDigits? (← digitValue? c) cs else none

/-- a numeral with its sign -/
def readSigned? : List Char → Option Int
  | '-' :: cs => (readNatural? cs).map fun n => -(n : Int)
  | '+' :: cs => (readNatural? cs).map Int.ofNat
  | cs => (readNatural? cs).map Int.ofNat

/-- the text without the padding at its ends -/
def trimPadding (cs : List Char) : List Char :=
  ((cs.dropWhile isPadding).reverse.dropWhile isPadding).reverse

/-- the integer that a text writes -/
def readInteger? (s : String) : Option Int := readSigned? (trimPadding s.toList)

example : readInteger? " -1_000\n" = some (-1000) := by decide +kernel
example : readInteger? "+１２" = some 12 := by decide +kernel
example : readInteger? "_1" = none := by decide +kernel
example : readInteger? "1__0" = none := by decide +kernel
example : readInteger? "\x1c7" = none := by decide +kernel
example : readInteger? "" = none := by decide +kernel

end Debate.Number
