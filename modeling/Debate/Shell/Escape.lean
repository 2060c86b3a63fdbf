import Debate.Shell.Octets

/-!
# Escapes

In the arguments of some programs a backslash starts an escape that stands for an octet: a letter for a
control character, or digits for its number. Any other backslash stands for itself.

* `Escapes`      which escapes are known;
* `unescape`     what a text with escapes stands for, and whether an escape ends the output.
-/

namespace Debate.Shell

/-- the escapes of a program -/
structure Escapes where
  /-- an octal escape starts with a zero, followed by up to three digits -/
  zeroFirst : Bool := false
  /-- an octal escape may also start with another digit, followed by up to two -/
  anyFirst : Bool := true
  /-- an escape ends the output -/
  ends : Bool := false
  /-- escapes to the base sixteen, of characters, and of a double quote -/
  more : Bool := false
  deriving DecidableEq, Repr

/-- the octet that a letter stands for after a backslash -/
def letterOctet? : Char → Option Char
  | 'a' => some '\x07'
  | 'b' => some '\x08'
  | 't' => some '\t'
  | 'n' => some '\n'
  | 'v' => some '\x0b'
  | 'f' => some '\x0c'
  | 'r' => some '\r'
  | '\\' => some '\\'
  | 'e' => some '\x1b'
  | _ => none

/-- an octal digit -/
def isOctal (c : Char) : Bool := '0' ≤ c && c ≤ '7'

/-- a digit to the base sixteen -/
def isHexadecimal (c : Char) : Bool :=
  c.isDigit || ('a' ≤ c && c ≤ 'f') || ('A' ≤ c && c ≤ 'F')

/-- the value of a digit -/
def digitValue (c : Char) : Nat :=
  if c.isDigit then c.toNat - 48 else if 'a' ≤ c then c.toNat - 87 else c.toNat - 55

/-- the number that digits write to a base -/
def valueToBase (base : Nat) (cs : List Char) : Nat := cs.foldl (fun n c => base * n + digitValue c) 0

/-- the octet of a number -/
def octetOf (n : Nat) : Char := Char.ofNat (n % 256)

/-- what an escape stands for, whether it ends the output, and how many characters it takes after the
backslash; nothing if it is not known -/
def escapeAt (e : Escapes) (cs : List Char) : Option (Octets × Bool × Nat) :=
  match cs with
  | [] => none
  | c :: rest =>
    let octal (skipped most : Nat) :=
      let ds := (cs.drop skipped).takeWhile isOctal |>.take most
      some ([octetOf (valueToBase 8 ds)], false, skipped + ds.length)
    if c = 'c' ∧ e.ends then some ([], true, 1)
    else if c = '0' ∧ e.zeroFirst then octal 1 3
    else if isOctal c ∧ e.anyFirst then octal 0 3
    else if e.more ∧ c = '"' then some (['"'], false, 1)
    else if e.more ∧ c = 'x' ∧ (rest.head?.map isHexadecimal).getD false then
      let ds := rest.takeWhile isHexadecimal |>.take 2
      some ([octetOf (valueToBase 16 ds)], false, 1 + ds.length)
    else if e.more ∧ (c = 'u' ∨ c = 'U') ∧ (rest.head?.map isHexadecimal).getD false then
      let ds := rest.takeWhile isHexadecimal |>.take (if c = 'u' then 4 else 8)
      some (Octets.ofCharacter (Char.ofNat (valueToBase 16 ds)), false, 1 + ds.length)
    else (letterOctet? c).map fun x => ([x], false, 1)

/-- what a text stands for, and whether it ends the output -/
def unescapeFrom (e : Escapes) : Nat → Octets → Octets × Bool
  | 0, _ => ([], false)
  | _, [] => ([], false)
  | fuel + 1, '\\' :: cs =>
    match escapeAt e cs with
    | some (_, true, _) => ([], true)
    | some (xs, false, n) => let r := unescapeFrom e fuel (cs.drop n); (xs ++ r.1, r.2)
    | none => let r := unescapeFrom e fuel cs; ('\\' :: r.1, r.2)
  | fuel + 1, c :: cs => let r := unescapeFrom e fuel cs; (c :: r.1, r.2)

/-- what a text stands for, and whether it ends the output -/
def unescape (e : Escapes) (cs : Octets) : Octets × Bool := unescapeFrom e cs.length cs

example : (unescape {} "a\\101\\n".toList).1 = ['a', 'A', '\n'] := by decide +kernel

end Debate.Shell
