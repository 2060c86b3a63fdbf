import Debate.Number.Double
import Debate.Number.Power

/-!
# The shortest decimal of a double

A finite double stands for the interval of reals that round to it; the ends belong to it exactly
when its mantissa is even. Its decimal has the fewest digits of any decimal in the interval, is the
nearest of those, and has an even last digit between two that are equally near. On the grid of a
given number of digits only the two neighbours of the value need to be looked at.

* `Grid`             a double beside the decimals with a fixed number of digits;
* `Grid.hit?`        the digits of the nearer neighbour in the interval;
* `shortest`         the digits, and the place of the point before the first of them;
* `Double.text`      the decimal as it is written: positional from `0.0001` up to below `10^16`,
                     otherwise with an exponent of two digits or more.
-/

namespace Debate.Number

open Power

/-- a double beside the multiples of a power of ten; `value`, `low` and `high` count quarters of
the mantissa's unit, and `step` and `unit` bring both to a common scale -/
structure Grid where
  value : Nat
  low : Nat
  high : Nat
  closed : Bool
  step : Nat
  unit : Nat

namespace Grid

/-- the double `mantissa * 2 ^ exponent` beside the multiples of `10 ^ power` -/
def ofDouble (mantissa : Nat) (exponent power : Int) : Grid :=
  let e := exponent - 2
  { value := 4 * mantissa
    low := if mantissa = 2 ^ (52 : Nat) ∧ exponent > Double.minExponent then 4 * mantissa - 1
      else 4 * mantissa - 2
    high := 4 * mantissa + 2
    closed := mantissa % 2 = 0
    step := 10 ^ power.toNat * 2 ^ (-e).toNat
    unit := 2 ^ e.toNat * 10 ^ (-power).toNat }

/-- whether a multiple lies in the interval of the double -/
def contains (g : Grid) (c : Nat) : Bool :=
  let x := c * g.step
  if g.closed then g.low * g.unit ≤ x && x ≤ g.high * g.unit
  else g.low * g.unit < x && x < g.high * g.unit

/-- the multiple in the interval that is nearest to the value, the even one of two -/
def hit? (g : Grid) : Option Nat :=
  let a := g.value * g.unit / g.step
  let below := g.value * g.unit - a * g.step
  let above := (a + 1) * g.step - g.value * g.unit
  match g.contains a, g.contains (a + 1) with
  | true, true => some (if below < above ∨ (below = above ∧ a % 2 = 0) then a else a + 1)
  | true, false => some a
  | false, true => some (a + 1)
  | false, false => none

end Grid

/-- the exponent of the leading decimal digit of a positive ratio -/
def leadingPower (num den : Nat) : Int :=
  if den ≤ num then ((Nat.toDigits 10 (num / den)).length : Int) - 1
  else -((Nat.toDigits 10 ((den + num - 1) / num - 1)).length : Int)

/-- digits without the zeros at their end -/
def dropZeros (ds : List Char) : List Char := (ds.reverse.dropWhile (· == '0')).reverse

/-- the shortest digits of a positive double, and the power of ten of the place before them -/
def shortest (mantissa : Nat) (exponent : Int) : List Char × Int :=
  let s := Double.scaled mantissa 1 (-exponent)
  let p := leadingPower s.1 s.2
  let found := (List.range 17).findSome? fun (n : Nat) =>
    ((Grid.ofDouble mantissa exponent (p - (n : Int))).hit?).map fun c => (c, p - (n : Int))
  match found with
  | some (c, power) =>
    let ds := Nat.toDigits 10 c
    (dropZeros ds, power + ds.length)
  | none => (['0'], 0)

/-- digits with the point in its place -/
def positional (ds : List Char) (point : Int) : List Char :=
  if point ≤ 0 then '0' :: '.' :: List.replicate point.natAbs '0' ++ ds
  else if ds.length ≤ point.toNat then
    ds ++ List.replicate (point.toNat - ds.length) '0' ++ ['.', '0']
  else ds.take point.toNat ++ '.' :: ds.drop point.toNat

/-- an exponent with its sign and at least two digits -/
def exponentDigits (e : Int) : List Char :=
  let ds := Nat.toDigits 10 e.natAbs
  (if e < 0 then '-' else '+') :: (if ds.length < 2 then '0' :: ds else ds)

/-- digits with one of them before the point, and an exponent -/
def scientific (ds : List Char) (point : Int) : List Char :=
  match ds with
  | [] => []
  | [d] => d :: 'e' :: exponentDigits (point - 1)
  | d :: ds => d :: '.' :: ds ++ 'e' :: exponentDigits (point - 1)

/-- the decimal of a finite double without its sign -/
def decimal (mantissa : Nat) (exponent : Int) : List Char :=
  if mantissa = 0 then ['0', '.', '0']
  else
    let r := shortest mantissa exponent
    if -4 < r.2 && r.2 ≤ 16 then positional r.1 r.2 else scientific r.1 r.2

/-- the text of a double -/
def Double.text : Double → String
  | .finite s m e => String.ofList (if s then '-' :: decimal m e else decimal m e)
  | .infinite s => if s then "-inf" else "inf"
  | .undefined => "nan"

example : (Double.ofDecimal false 1 (-1)).text = "0.1" := by decide +kernel
example : (Double.add (Double.ofDecimal false 1 (-1)) (Double.ofDecimal false 2 (-1))).text =
    "0.30000000000000004" := by decide +kernel
example : (Double.ofDecimal false 1 16).text = "1e+16" := by decide +kernel
example : (Double.ofDecimal false 1 15).text = "1000000000000000.0" := by decide +kernel
example : (Double.ofDecimal true 1 (-4)).text = "-0.0001" := by decide +kernel
example : (Double.ofDecimal false 1 (-5)).text = "1e-05" := by decide +kernel

end Debate.Number
