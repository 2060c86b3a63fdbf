import Debate.Number.Power
import Debate.Shell.Format
import Debate.Shell.Numeral
import Debate.Shell.Report.Script

/-!
# Values of scripts that report on records

A value is a number, a text, or both: what was read counts as a number if it looks like one, and a variable
without a value counts as zero and as the empty text. An integer that a word can hold is written with all of
its digits, another number as a format says.

* `Report.Value`                          the values;
* `Report.quotient`, `Report.residue`     what is not rounded arithmetic of two numbers already;
* `Report.throughFloat`                   functions that are known only as far as the machine computes them;
* `Report.format`                         texts with conversions;
* `Report.Value.toNumber`, `Report.Value.toText`, `Report.compareValues`   values as numbers and as texts.
-/

namespace Debate.Shell.Report

open Debate.Number Debate.Number.Power

/-- a value -/
inductive Value where
  | absent
  | number (x : Double)
  | text (cs : Octets)
  /-- something that was read -/
  | input (cs : Octets)
  deriving DecidableEq, Repr, Inhabited

/-! ## arithmetic -/

/-- one -/
def one : Double := .ofInt 1

/-- a truth value as a number -/
def ofBool (b : Bool) : Value := .number (if b then one else .zero)

/-- a quotient -/
def quotient : Double → Double → Double
  | .finite s m e, .finite s' m' e' =>
    if m' = 0 then (if m = 0 then .undefined else .infinite (s != s'))
    else
      let a := Double.ratio false m e
      let b := Double.ratio false m' e'
      .nearest (s != s') (a.1.natAbs * b.2) (a.2 * b.1.natAbs)
  | .infinite s, .finite s' _ _ => .infinite (s != s')
  | .finite s _ _, .infinite s' => .finite (s != s') 0 Double.minExponent
  | _, _ => .undefined

/-- a remainder, with the sign of what is divided -/
def residue : Double → Double → Double
  | .finite s m e, .finite _ m' e' =>
    if m' = 0 then .undefined
    else
      let a := Double.ratio false m e
      let b := Double.ratio false m' e'
      .nearest s ((a.1.natAbs * b.2) % (b.1.natAbs * a.2)) (a.2 * b.2)
  | .finite s m e, .infinite _ => .finite s m e
  | _, _ => .undefined

/-- the integer that a number is, if it is one -/
def whole? : Double → Option Int
  | .finite s m e =>
    let unit : Nat := 2 ^ e.natAbs
    let n : Nat := if 0 ≤ e then m * unit else m / unit
    if 0 ≤ e ∨ m % unit = 0 then some (if s then -(n : Int) else n) else none
  | _ => none

/-- a number as a machine word -/
def toFloat : Double → Float
  | .finite s m e =>
    let sign := if s then 2 ^ (63 : Nat) else 0
    let magnitude := if m < 2 ^ (52 : Nat) then m else (e + 1075).toNat * 2 ^ (52 : Nat) + (m - 2 ^ (52 : Nat))
    Float.ofBits (sign + magnitude).toUInt64
  | .infinite s => Float.ofBits (if s then 0xFFF0000000000000 else 0x7FF0000000000000)
  | .undefined => Float.ofBits 0x7FF8000000000000

/-- a machine word as a number -/
def ofFloat (x : Float) : Double :=
  let bits := x.toBits.toNat
  let s := 2 ^ (63 : Nat) ≤ bits
  let e : Nat := bits / 2 ^ (52 : Nat) % 2 ^ (11 : Nat)
  let m : Nat := bits % 2 ^ (52 : Nat)
  if e = 2047 then (if m = 0 then .infinite s else .undefined)
  else if e = 0 then .finite s m Double.minExponent
  else .finite s (m + 2 ^ (52 : Nat)) ((e : Int) - 1075)

/-- a function of machine words, applied to a number -/
def throughFloat (f : Float → Float) (x : Double) : Double := ofFloat (f (toFloat x))

/-- an operation with two numbers -/
def Operator.apply (op : Operator) (a b : Double) : Double :=
  match op with
  | .add => Double.add a b
  | .subtract => Double.sub a b
  | .multiply => Double.mul a b
  | .divide => quotient a b
  | .remainder => residue a b
  | .power => ofFloat (Float.pow (toFloat a) (toFloat b))

/-! ## integers of machine words -/

/-- the greatest integer without a sign -/
def greatestWord : Nat := 2 ^ (64 : Nat) - 1

/-- the integer part, within what a word with or without a sign can hold -/
def signedWord (x : Double) : Int :=
  match x with
  | .finite .. => max (-(2 ^ (63 : Nat) - 1)) (min greatestWord (x.truncate.getD 0))
  | .infinite s => if s then -(2 ^ (63 : Nat) - 1) else greatestWord
  | .undefined => -(2 ^ (63 : Nat))

/-- the integer part as a word without a sign -/
def unsignedWord (x : Double) : Nat :=
  match x with
  | .finite .. =>
    let t := x.truncate.getD 0
    ((max (-(greatestWord : Int)) (min greatestWord t)) % 2 ^ (64 : Nat)).toNat
  | .infinite s => if s then 1 else greatestWord
  | .undefined => 2 ^ (63 : Nat)

/-- the integer part as far as half a word holds it -/
def halfWord (x : Double) : Int :=
  let t := x.truncate.getD 0
  if 2 ^ (63 : Nat) ≤ t.natAbs then 0
  else
    let low := t % 2 ^ (32 : Nat)
    if low < 2 ^ (31 : Nat) then low else low - 2 ^ (32 : Nat)

/-! ## texts -/

/-- the number that a text starts with -/
def leading (cs : Octets) : Double := ((Numeral.double cs).map (·.1)).getD .zero

/-- the number that something looks like as a whole, with blanks around it -/
def numeric? (cs : Octets) : Option Double :=
  let body := ((cs.dropWhile Octets.isSpace).reverse.dropWhile Octets.isSpace).reverse
  let starts := (body.head?.map fun c => c.isDigit || c = '+' || c = '-' || c = '.').getD false
  let stops := (body.getLast?.map fun c => c.isDigit || c = '.').getD false
  if starts ∧ stops then Numeral.double? body else none

namespace Value

/-- a value as a number -/
def toNumber : Value → Double
  | .absent => .zero
  | .number x => x
  | .text cs | .input cs => leading cs

/-- the number of something that is one, or looks like one -/
def numeric? : Value → Option Double
  | .absent => some .zero
  | .number x => some x
  | .text _ => none
  | .input cs => Report.numeric? cs

/-- whether a value counts as true -/
def holds : Value → Bool
  | .absent => false
  | .number x => !x.isZero
  | .text cs => !cs.isEmpty
  | .input cs => match Report.numeric? cs with
    | some x => !x.isZero
    | none => !cs.isEmpty

end Value

/-! ## conversions -/

/-- what is wrong with a text with conversions -/
inductive FormatFault where
  | tooFew
  /-- a conversion that is none, by its place among them -/
  | improper (place : Nat)
  deriving DecidableEq, Repr

/-- digits of a number that is no integer, or too large for one -/
def digits (c : Conversion) (letter : Char) (x : Double) : Octets :=
  match x with
  | .undefined => c.fill false ['-'] (if letter.isUpper then "NAN".toList else "nan".toList)
  | x => c.float letter x

/-- an integer, or digits that do not fit a format -/
def integerText (x : Double) : Option Octets :=
  match whole? x with
  | some n => if -(2 ^ (63 : Nat)) ≤ n ∧ n ≤ 2 ^ (64 : Nat) then some (Octets.ofInt (min n greatestWord)) else none
  | none => none

/-- what a conversion of a number writes, by its letter -/
def convertNumber (c : Conversion) (letter : Char) (x : Double) : Option Octets :=
  match letter with
  | 'd' | 'i' => some (c.integer (signedWord x))
  | 'o' => some (c.natural 8 false (unsignedWord x))
  | 'x' => some (c.natural 16 false (unsignedWord x))
  | 'X' => some (c.natural 16 true (unsignedWord x))
  | 'u' => some ({ c with plus := false, space := false }.integer (unsignedWord x))
  | 'e' | 'E' | 'f' | 'g' | 'G' => some (digits c letter x)
  | _ => none

/-- a number that is no integer, as a format writes it -/
def formatNumber : Nat → Octets → Double → Octets
  | 0, _, _ => []
  | _, [], _ => []
  | fuel + 1, '%' :: '%' :: cs, x => '%' :: formatNumber fuel cs x
  | fuel + 1, '%' :: cs, x =>
    let (w, rest) := Conversion.read cs
    let size (s : Option Conversion.Size) : Nat := match s with
      | some (.given n) => n
      | _ => 0
    let c := { w.flags with width := size w.width, precision := w.precision.map size }
    let (letter, rest) := match rest with
      | 'l' :: l :: rest | 'h' :: l :: rest => (l, rest)
      | l :: rest => (l, rest)
      | [] => ('%', [])
    (convertNumber c letter x).getD [] ++ formatNumber fuel rest x
  | fuel + 1, c :: cs, x => c :: formatNumber fuel cs x

/-- a number as a text -/
def numberToText (format : Octets) (x : Double) : Octets :=
  match integerText x with
  | some cs => cs
  | none =>
    if format = "%.6g".toList then digits {} 'g' x else formatNumber format.length format x

/-- a value as a text; numbers as a format says -/
def Value.toText (format : Octets) : Value → Octets
  | .absent => []
  | .number x => numberToText format x
  | .text cs | .input cs => cs

/-- what a conversion of a value writes, by its letter -/
def convert (numberFormat : Octets) (c : Conversion) (letter : Char) (v : Value) : Option Octets :=
  match letter with
  | 's' => some (c.text (v.toText numberFormat))
  | 'c' =>
    let octet := match v with
      | .absent => '\x00'
      | v => match v.numeric? with
        | some x => Char.ofNat (signedWord x % 256).toNat
        | none => ((v.toText numberFormat).head?).getD '\x00'
    some (c.fill false [] [octet])
  | letter => convertNumber c letter v.toNumber

/-- a text with conversions: what it writes, and what is wrong with it; `place` is the number of the next one -/
def format (numberFormat : Octets) : Nat → Nat → Octets → List Value → Octets × Option FormatFault
  | 0, _, _, _ => ([], none)
  | _, _, [], _ => ([], none)
  | fuel + 1, place, '%' :: '%' :: cs, args =>
    let r := format numberFormat fuel place cs args
    ('%' :: r.1, r.2)
  | fuel + 1, place, '%' :: cs, args =>
    let (w, rest) := Conversion.read cs
    let take (s : Option Conversion.Size) (args : List Value) : Option (Option Int × List Value) :=
      match s, args with
      | none, args => some (none, args)
      | some (.given n), args => some (some n, args)
      | some .asked, v :: args => some (some (halfWord v.toNumber), args)
      | some .asked, [] => none
    match take w.width args with
    | none => ([], some .tooFew)
    | some (width, args) =>
      match take (w.precision.getD none) args with
      | none => ([], some .tooFew)
      | some (precision, args) =>
        match args with
        | [] => ([], some .tooFew)
        | v :: args =>
          let c := (width.map w.flags.withWidth).getD w.flags
          let c := if w.precision.isSome then c.withPrecision (precision.getD 0) else c
          let rest := match rest with
            | 'h' :: rest => rest
            | 'l' :: 'l' :: rest => rest
            | 'l' :: rest => rest
            | rest => rest
          match rest with
          | [] => ([], some (.improper place))
          | letter :: rest =>
            match convert numberFormat c letter v with
            | none => ([], some (.improper place))
            | some text =>
              let r := format numberFormat fuel (place + 1) rest args
              (text ++ r.1, r.2)
  | fuel + 1, place, c :: cs, args =>
    let r := format numberFormat fuel place cs args
    (c :: r.1, r.2)

/-! ## comparing -/

/-- whether a comparison holds, by whether one is less and whether it is greater -/
def Comparison.holds (c : Comparison) (less greater : Bool) : Bool :=
  match c with
  | .less => less
  | .lessOrEqual => !greater
  | .equal => !less && !greater
  | .notEqual => less || greater
  | .greater => greater
  | .greaterOrEqual => !less

/-- whether a comparison holds: as numbers if both are, or else octet by octet -/
def compareValues (format : Octets) (c : Comparison) (a b : Value) : Bool :=
  match a.numeric?, b.numeric? with
  | some x, some y => c.holds (Double.lt x y) (Double.lt y x)
  | _, _ =>
    let x := a.toText format
    let y := b.toText format
    c.holds (Octets.before x y) (Octets.before y x)

end Debate.Shell.Report
