import Debate.Number.Power

/-!
# Double-precision numbers

A double is a sign, a mantissa below `2^53` and a binary exponent of at least `-1074`; besides there
are the two infinities and the undefined number. Every operation computes the exact ratio and
rounds it once, to the nearest double and to the even mantissa between two.

* `Double`             the numbers, each finite one in one form only;
* `Double.nearest`     the double nearest to a ratio of naturals;
* `Double.ofDecimal`   the double nearest to a decimal numeral;
* `Double.add`, `Double.sub`, `Double.mul`   rounded arithmetic;
* `Double.truncate`    the integer part, toward zero.
-/

namespace Debate.Number

open Power

/-- a double-precision number -/
inductive Double where
  /-- `mantissa * 2 ^ exponent` with a sign -/
  | finite (negative : Bool) (mantissa : Nat) (exponent : Int)
  | infinite (negative : Bool)
  | undefined
  deriving DecidableEq, Repr, Inhabited

namespace Double

/-- the exponent of the smallest double -/
def minExponent : Int := -1074

/-- the exponent of the largest double -/
def maxExponent : Int := 971

/-- zero -/
def zero : Double := .finite false 0 minExponent

/-- a quotient rounded to the nearest natural, to the even one between two -/
def roundQuotient (num den : Nat) : Nat :=
  let q := num / den
  let r := num % den
  if 2 * r < den ∨ (2 * r = den ∧ q % 2 = 0) then q else q + 1

/-- numerator and denominator of a ratio divided by a power of two -/
def scaled (num den : Nat) (exponent : Int) : Nat × Nat :=
  if exponent < 0 then (num * 2 ^ exponent.natAbs, den) else (num, den * 2 ^ exponent.natAbs)

/-- the exponent at which a positive ratio has a mantissa of 53 bits, or the least exponent -/
def exponentFor (num den : Nat) : Int :=
  let guess : Int := (num.log2 : Int) - den.log2 - 53
  let s := scaled num den guess
  max (if s.1 / s.2 < 2 ^ (53 : Nat) then guess else guess + 1) minExponent

/-- a mantissa with its exponent as a double; a mantissa of `2^53` moves up one exponent -/
def ofMantissa (negative : Bool) (mantissa : Nat) (exponent : Int) : Double :=
  let carry := mantissa == 2 ^ (53 : Nat)
  let m := if carry then 2 ^ (52 : Nat) else mantissa
  let e := if carry then exponent + 1 else exponent
  if e > maxExponent then .infinite negative else .finite negative m e

/-- the double nearest to `num / den` -/
def nearest (negative : Bool) (num den : Nat) : Double :=
  if num = 0 then .finite negative 0 minExponent
  else
    let e := exponentFor num den
    let s := scaled num den e
    ofMantissa negative (roundQuotient s.1 s.2) e

/-- the double nearest to a signed ratio -/
def ofRatio (num : Int) (den : Nat) : Double := nearest (num < 0) num.natAbs den

/-- the double nearest to an integer -/
def ofInt (n : Int) : Double := ofRatio n 1

/-- the double nearest to `digits * 10 ^ exponent`; exponents far outside the range are not
computed -/
def ofDecimal (negative : Bool) (digits : Nat) (exponent : Int) : Double :=
  if digits = 0 then .finite negative 0 minExponent
  else if exponent > 400 then .infinite negative
  else if (Nat.toDigits 10 digits).length + exponent < -400 then .finite negative 0 minExponent
  else if exponent < 0 then nearest negative digits (10 ^ exponent.natAbs)
  else nearest negative (digits * 10 ^ exponent.natAbs) 1

/-- the exact value of a finite double as an integer over a natural -/
def ratio (negative : Bool) (mantissa : Nat) (exponent : Int) : Int × Nat :=
  let m : Int := if negative then -(mantissa : Int) else mantissa
  if exponent < 0 then (m, 2 ^ exponent.natAbs) else (m * 2 ^ exponent.natAbs, 1)

/-- the number with the other sign -/
def negate : Double → Double
  | .finite s m e => .finite (!s) m e
  | .infinite s => .infinite (!s)
  | .undefined => .undefined

/-- the rounded sum; a zero sum is negative only if both terms are -/
def add : Double → Double → Double
  | .finite s m e, .finite s' m' e' =>
    let a := ratio s m e
    let b := ratio s' m' e'
    let num := a.1 * b.2 + b.1 * a.2
    if num = 0 then .finite (s && s') 0 minExponent else ofRatio num (a.2 * b.2)
  | .infinite s, .infinite s' => if s = s' then .infinite s else .undefined
  | .infinite s, .finite .. | .finite .., .infinite s => .infinite s
  | .undefined, _ | _, .undefined => .undefined

/-- the rounded difference -/
def sub (x y : Double) : Double := add x (negate y)

/-- the rounded product -/
def mul : Double → Double → Double
  | .finite s m e, .finite s' m' e' =>
    let a := ratio false m e
    let b := ratio false m' e'
    nearest (s != s') (a.1 * b.1).natAbs (a.2 * b.2)
  | .infinite s, .infinite s' => .infinite (s != s')
  | .infinite s, .finite s' m _ | .finite s m _, .infinite s' =>
    if m = 0 then .undefined else .infinite (s != s')
  | .undefined, _ | _, .undefined => .undefined

/-- the integer part of a finite number, toward zero -/
def truncate : Double → Option Int
  | .finite s m e =>
    let n : Int := if e < 0 then m / 2 ^ e.natAbs else m * 2 ^ e.natAbs
    some (if s then -n else n)
  | _ => none

/-- neither sign of zero, nor undefined -/
def isZero : Double → Bool
  | .finite _ m _ => m == 0
  | _ => false

/-- whether a double is less than another; the undefined number is neither less nor greater -/
def lt : Double → Double → Bool
  | .finite s m e, .finite s' m' e' =>
    let a := ratio s m e
    let b := ratio s' m' e'
    a.1 * b.2 < b.1 * a.2
  | .infinite s, .infinite s' => s && !s'
  | .infinite s, .finite .. => s
  | .finite .., .infinite s => !s
  | .undefined, _ | _, .undefined => false

/-- whether a double is less than an integer; the undefined number is not -/
def ltInt (x : Double) (n : Int) : Bool :=
  match x with
  | .finite s m e => let a := ratio s m e; a.1 < n * a.2
  | .infinite s => s
  | .undefined => false

/-- whether a double is greater than an integer; the undefined number is not -/
def gtInt (x : Double) (n : Int) : Bool :=
  match x with
  | .finite s m e => let a := ratio s m e; n * a.2 < a.1
  | .infinite s => !s
  | .undefined => false

example : nearest false 1 10 = .finite false 7205759403792794 (-56) := by decide +kernel
example : ofDecimal false 1 400 = .infinite false := by decide +kernel
example : (ofDecimal false 39 (-1)).truncate = some 3 := by decide +kernel
example : (ofDecimal true 5 (-1)).truncate = some 0 := by decide +kernel

end Double

end Debate.Number
