import Debate.Number.Double
import Debate.Number.Power
import Debate.Shell.Arithmetic

/-!
# Numbers in arguments

A number with a point may have a sign, an exponent, and digits to the base sixteen after `0x`; there are
words for what is infinite and what is undefined.

* `Numeral.double`     the number that a text starts with, and what follows it;
* `Numeral.double?`    the number that a whole text writes;
* `Numeral.integer`    the integer that a text starts with, and what follows it.
-/

namespace Debate.Shell.Numeral

open Debate.Number Debate.Number.Power

/-- a sign, and what follows it -/
def sign (cs : Octets) : Bool × Octets :=
  match cs with
  | '-' :: cs => (true, cs)
  | '+' :: cs => (false, cs)
  | cs => (false, cs)

/-- the digits that a text starts with -/
def digits (cs : Octets) : Octets := cs.takeWhile Char.isDigit

/-- a word at the start of a text, whatever its case -/
def word? (w : String) (cs : Octets) : Option Octets :=
  if (cs.take w.length).map Char.toLower = w.toList then some (cs.drop w.length) else none

/-- an exponent behind its mark, and what follows it -/
def exponent (marks : List Char) (cs : Octets) : Int × Octets :=
  match cs with
  | m :: rest =>
    let (negative, rest) := sign rest
    let ds := digits rest
    if marks.contains m ∧ ds ≠ [] then
      let n := (Octets.natural? ds).getD 0
      (if negative then -(n : Int) else n, rest.drop ds.length)
    else (0, cs)
  | [] => (0, [])

/-- a number to the base sixteen after its mark, and what follows it -/
def hexadecimal (negative : Bool) (cs : Octets) : Double × Octets :=
  let isHex (c : Char) : Bool := (Arithmetic.hexDigit? c).isSome
  let whole := cs.takeWhile isHex
  let (part, rest) := match cs.drop whole.length with
    | '.' :: rest =>
      let part := rest.takeWhile isHex
      (part, rest.drop part.length)
    | rest => ([], rest)
  let (e, rest) := exponent ['p', 'P'] rest
  let n := (Arithmetic.digits 16 0 (whole ++ part)).1
  let e := e - 4 * part.length
  (if e < 0 then .nearest negative n (2 ^ e.natAbs) else .nearest negative (n * 2 ^ e.natAbs) 1, rest)

/-- a decimal number without its sign, and what follows it -/
def decimal? (negative : Bool) (cs : Octets) : Option (Double × Octets) :=
  let whole := digits cs
  let (part, rest) := match cs.drop whole.length with
    | '.' :: rest =>
      let part := digits rest
      if whole.isEmpty ∧ part.isEmpty then ([], '.' :: rest) else (part, rest.drop part.length)
    | rest => ([], rest)
  if whole.isEmpty ∧ part.isEmpty then none
  else
    let (e, rest) := exponent ['e', 'E'] rest
    let n := (Octets.natural? (whole ++ part)).getD 0
    some (.ofDecimal negative n (e - part.length), rest)

/-- the number that a text starts with, after blanks, and what follows it -/
def double (cs : Octets) : Option (Double × Octets) :=
  let (negative, ds) := sign (cs.dropWhile Octets.isSpace)
  match word? "infinity" ds, word? "inf" ds, word? "nan" ds with
  | some rest, _, _ => some (.infinite negative, rest)
  | none, some rest, _ => some (.infinite negative, rest)
  | none, none, some rest => some (.undefined, rest)
  | none, none, none =>
    match ds with
    | '0' :: x :: d :: rest =>
      if (x = 'x' ∨ x = 'X') ∧ (Arithmetic.hexDigit? d).isSome then some (hexadecimal negative (d :: rest))
      else decimal? negative ds
    | ds => decimal? negative ds

/-- the number that a whole text writes -/
def double? (cs : Octets) : Option Double :=
  match double cs with
  | some (x, []) => some x
  | _ => none

/-- the integer that a text starts with, after blanks, and what follows it -/
def integer (cs : Octets) : Option (Int × Octets) :=
  let (negative, ds) := sign (cs.dropWhile Octets.isSpace)
  if (ds.head?.map Char.isDigit).getD false then
    let (n, rest) := Arithmetic.number ds
    some (if negative then -(n : Int) else n, rest)
  else none

end Debate.Shell.Numeral
