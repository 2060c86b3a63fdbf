import Debate.Number.Double
import Debate.Number.Power
import Debate.Shell.Octets

/-!
# Formats of numbers and texts

A conversion writes a number or a text with a least width and a precision: for integers the least
number of digits, for numbers with a point how many digits are written, for texts how much is written
at most.

* `Conversion`            the width, the precision and the flags;
* `Conversion.integer`, `Conversion.natural`, `Conversion.float`, `Conversion.text`   what is written;
* `Conversion.read?`      the conversion that a text starts with.
-/

namespace Debate.Shell

open Debate.Number Debate.Number.Power

/-- the width, the precision and the flags of a conversion -/
structure Conversion where
  left : Bool := false
  plus : Bool := false
  space : Bool := false
  alternate : Bool := false
  zero : Bool := false
  width : Nat := 0
  precision : Option Nat := none
  deriving DecidableEq, Repr

namespace Conversion

/-- what is written is filled up to the width; zeros come after the sign -/
def fill (c : Conversion) (zeros : Bool) (sign body : Octets) : Octets :=
  let missing := c.width - (sign.length + body.length)
  if c.left then sign ++ body ++ List.replicate missing ' '
  else if zeros then sign ++ List.replicate missing '0' ++ body
  else List.replicate missing ' ' ++ sign ++ body

/-- the sign of a number -/
def sign (c : Conversion) (negative : Bool) : Octets :=
  if negative then ['-'] else if c.plus then ['+'] else if c.space then [' '] else []

/-- a text; only so much of it as the precision says -/
def text (c : Conversion) (cs : Octets) : Octets :=
  c.fill false [] (match c.precision with
    | some p => cs.take p
    | none => cs)

/-- digits, at least so many as the precision says -/
def atLeast (c : Conversion) (digits : Octets) : Octets :=
  match c.precision with
  | some p =>
    if p = 0 ∧ digits = ['0'] then [] else List.replicate (p - digits.length) '0' ++ digits
  | none => digits

/-- an integer -/
def integer (c : Conversion) (n : Int) : Octets :=
  c.fill (c.zero && c.precision.isNone) (c.sign (n < 0)) (c.atLeast (Octets.ofNat n.natAbs))

/-- a natural number to a base -/
def natural (c : Conversion) (base : Nat) (upper : Bool) (n : Nat) : Octets :=
  let digits := Nat.toDigits base n
  let digits := c.atLeast (if upper then digits.map Char.toUpper else digits)
  let digits := if c.alternate ∧ base = 8 ∧ digits.head? ≠ some '0' then '0' :: digits else digits
  let mark := if c.alternate ∧ base = 16 ∧ n ≠ 0 then (if upper then ['0', 'X'] else ['0', 'x']) else []
  c.fill (c.zero && c.precision.isNone) mark digits

/-! ## numbers with a point -/

/-- digits with a point in front of the last so many -/
def pointed (alternate : Bool) (places : Nat) (n : Nat) : Octets :=
  let ds := Octets.ofNat n
  let ds := List.replicate (places + 1 - ds.length) '0' ++ ds
  let whole := ds.take (ds.length - places)
  if places = 0 then (if alternate then whole ++ ['.'] else whole)
  else whole ++ '.' :: ds.drop (ds.length - places)

/-- a ratio with so many places after the point -/
def fixed (alternate : Bool) (places num den : Nat) : Octets :=
  pointed alternate places (Double.roundQuotient (num * 10 ^ places) den)

/-- the greatest power of ten that is not above a ratio -/
def powerOf (num den : Nat) : Int :=
  if num = 0 then 0
  else
    let guess : Int := (Octets.ofNat num).length - (Octets.ofNat den).length
    let reaches (k : Int) : Bool :=
      if 0 ≤ k then den * 10 ^ k.natAbs ≤ num else den ≤ num * 10 ^ k.natAbs
    if reaches guess then guess else guess - 1

/-- the digits of a ratio, one in front of the point and so many after it, and the power of ten -/
def mantissa (places num den : Nat) : Nat × Int :=
  let k := powerOf num den
  let shift := (places : Int) - k
  let n := if 0 ≤ shift then Double.roundQuotient (num * 10 ^ shift.natAbs) den
    else Double.roundQuotient num (den * 10 ^ shift.natAbs)
  if 10 ^ (places + 1) ≤ n then (n / 10, k + 1) else (n, k)

/-- a power of ten behind its mark, with two digits at least -/
def exponent (upper : Bool) (k : Int) : Octets :=
  let ds := Octets.ofNat k.natAbs
  (if upper then 'E' else 'e') :: (if k < 0 then '-' else '+') ::
    (if ds.length < 2 then '0' :: ds else ds)

/-- a ratio with a power of ten -/
def scientific (alternate upper : Bool) (places num den : Nat) : Octets :=
  let (n, k) := mantissa places num den
  pointed alternate places n ++ exponent upper k

/-- a number without the zeros at the end of its places -/
def dropZeros (cs : Octets) : Octets :=
  if cs.contains '.' then
    let cs := cs.reverse.dropWhile (· = '0')
    (if cs.head? = some '.' then cs.tail else cs).reverse
  else cs

/-- a ratio with so many digits, with or without a power of ten, whichever suits it -/
def general (alternate upper : Bool) (digits num den : Nat) : Octets :=
  let digits := max digits 1
  let (n, k) := mantissa (digits - 1) num den
  let tidy (cs : Octets) : Octets := if alternate then cs else dropZeros cs
  if -4 ≤ k ∧ k < digits then tidy (fixed alternate ((digits : Int) - 1 - k).toNat num den)
  else tidy (pointed alternate (digits - 1) n) ++ exponent upper k

/-- a number with a point, as the letter of the conversion says -/
def float (c : Conversion) (letter : Char) (x : Double) : Octets :=
  let upper := letter.isUpper
  let word (w : String) : Octets := if upper then w.toUpper.toList else w.toList
  match x with
  | .finite negative m e =>
    let (num, den) := Double.ratio false m e
    let body := match letter.toLower with
      | 'f' => fixed c.alternate (c.precision.getD 6) num.natAbs den
      | 'e' => scientific c.alternate upper (c.precision.getD 6) num.natAbs den
      | _ => general c.alternate upper (c.precision.getD 6) num.natAbs den
    c.fill c.zero (c.sign negative) body
  | .infinite negative => c.fill false (c.sign negative) (word "inf")
  | .undefined => c.fill false (c.sign false) (word "nan")

/-! ## reading -/

/-- a conversion with a flag -/
def flag? (c : Conversion) : Char → Option Conversion
  | '-' => some { c with left := true }
  | '+' => some { c with plus := true }
  | ' ' => some { c with space := true }
  | '#' => some { c with alternate := true }
  | '0' => some { c with zero := true }
  | _ => none

/-- the flags that a text starts with -/
def flags (c : Conversion) : Octets → Conversion × Octets
  | [] => (c, [])
  | x :: cs =>
    match c.flag? x with
    | some c => flags c cs
    | none => (c, x :: cs)

/-- a number that is written, or asked for by a star -/
inductive Size where
  | given (n : Nat)
  | asked
  deriving DecidableEq, Repr

/-- a number or a star at the start of a text -/
def size? (cs : Octets) : Option Size × Octets :=
  match cs with
  | '*' :: cs => (some .asked, cs)
  | cs =>
    let ds := cs.takeWhile Char.isDigit
    ((Octets.natural? ds).map .given, cs.drop ds.length)

/-- a conversion as it is written: its width and precision may be asked for -/
structure Written where
  flags : Conversion
  width : Option Size
  /-- the precision, if there is a point -/
  precision : Option (Option Size)
  deriving DecidableEq, Repr

/-- the conversion that a text starts with after the percent sign, and what follows it -/
def read (cs : Octets) : Written × Octets :=
  let (flags, cs) := flags {} cs
  let (width, cs) := size? cs
  match cs with
  | '.' :: cs =>
    let (p, cs) := size? cs
    ({ flags, width, precision := some p }, cs)
  | cs => ({ flags, width, precision := none }, cs)

/-- a width that was asked for; a negative one asks for what is written to stand at the left -/
def withWidth (c : Conversion) (n : Int) : Conversion :=
  { c with width := n.natAbs, left := c.left || n < 0 }

/-- a precision that was asked for; a negative one asks for none -/
def withPrecision (c : Conversion) (n : Int) : Conversion :=
  { c with precision := if n < 0 then none else some n.toNat }

example : String.ofList ({ width := 8, precision := some 2 : Conversion }.float 'f' (.ofDecimal false 314159 (-5))) =
    "    3.14" := by decide +kernel
example : String.ofList (({} : Conversion).float 'g' (.ofDecimal false 1 20)) = "1e+20" := by decide +kernel
example : String.ofList ({ zero := true, width := 5 : Conversion }.integer (-42)) = "-0042" := by decide +kernel

end Conversion

end Debate.Shell
