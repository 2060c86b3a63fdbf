import Debate.Text.Split
import Debate.Text.Utf8

/-!
# Octets

Commands read and write bytes. A text of theirs is a list of characters below 256, each standing for
the byte with its number, so that patterns can be written with the characters that they mean.

* `Octets`                 a text of bytes;
* `Octets.ofString`        the bytes of a text;
* `Octets.toBytes`, `Octets.ofBytes`   to and from the bytes themselves;
* `Octets.lines`           the lines, each with its line feed if it has one;
* `Octets.characters`, `Octets.ofCharacters`   to and from the characters that bytes encode.
-/

namespace Debate.Shell

open Debate.Text

/-- a text of bytes -/
abbrev Octets := List Char

namespace Octets

/-- the octet of a byte -/
def ofByte (b : UInt8) : Char := Char.ofNat b.toNat

/-- the byte of an octet -/
def toByte (c : Char) : UInt8 := c.toNat.toUInt8

/-- bytes as octets -/
def ofBytes (bs : List UInt8) : Octets := bs.map ofByte

/-- octets as bytes -/
def toBytes (cs : Octets) : List UInt8 := cs.map toByte

/-- the octets of a text -/
def ofString (s : String) : Octets := ofBytes (Utf8.encode s)

/-- the text that octets encode -/
def toText (cs : Octets) : String := Utf8.decodeLenient (toBytes cs)

theorem toByte_ofByte (b : UInt8) : toByte (ofByte b) = b := by
  have h : b.toNat.isValidChar := by
    have := b.toNat_lt
    exact Or.inl (by omega)
  have hchar : (ofByte b).toNat = b.toNat := by
    rw [ofByte, Char.ofNat, dif_pos h]
    rfl
  rw [toByte, hchar]
  exact UInt8.ofNat_toNat

@[simp] theorem toBytes_ofBytes (bs : List UInt8) : toBytes (ofBytes bs) = bs := by
  simp [toBytes, ofBytes, Function.comp_def, toByte_ofByte]

/-! ## lines -/

/-- the lines, each with its line feed; the last may lack it -/
def lines : Octets → List Octets
  | [] => []
  | c :: cs =>
    if c = '\n' then ['\n'] :: lines cs
    else
      match lines cs with
      | [] => [[c]]
      | l :: ls => (c :: l) :: ls

@[simp] theorem flatten_lines (cs : Octets) : (lines cs).flatten = cs := by
  induction cs with
  | nil => rfl
  | cons c cs ih =>
    unfold lines
    split
    · simp [*]
    · cases h : lines cs with
      | nil => rw [h] at ih; simp at ih; simp [← ih]
      | cons l ls => rw [h] at ih; simp at ih; simp [ih]

/-- a line without the line feed at its end -/
def chomp (l : Octets) : Octets := if l.getLast? = some '\n' then l.dropLast else l

/-- whether a line feed stands at the end -/
def isTerminated (l : Octets) : Bool := l.getLast? = some '\n'

/-- a text without the line feeds at its end -/
def chompAll (cs : Octets) : Octets := (cs.reverse.dropWhile (· = '\n')).reverse

/-! ## numbers -/

/-- the decimal digits of a natural number -/
def ofNat (n : Nat) : Octets := (toString n).toList

/-- the decimal digits of an integer, with a sign if it is negative -/
def ofInt (n : Int) : Octets := (toString n).toList

/-- the natural number that decimal digits write -/
def natural? (cs : Octets) : Option Nat :=
  if cs ≠ [] ∧ cs.all Char.isDigit then some (cs.foldl (fun n c => 10 * n + (c.toNat - 48)) 0) else none

/-- a blank -/
def isSpace (c : Char) : Bool := c = ' ' || ('\t' ≤ c && c ≤ '\r')

/-- the integer that decimal digits write, with a sign or without, and with blanks around it -/
def integer? (cs : Octets) : Option Int :=
  let cs := ((cs.dropWhile isSpace).reverse.dropWhile isSpace).reverse
  match cs with
  | '-' :: ds => (natural? ds).map fun n => -(n : Int)
  | '+' :: ds => (natural? ds).map Int.ofNat
  | ds => (natural? ds).map Int.ofNat

/-! ## order -/

/-- whether a text comes before another one, byte by byte -/
def before : Octets → Octets → Bool
  | [], [] => false
  | [], _ :: _ => true
  | _ :: _, [] => false
  | a :: as, b :: bs => if a = b then before as bs else a < b

/-! ## characters -/

/-- the number of the first character that stands for a byte that encodes nothing -/
def strayBase : Nat := 0x10FF00

/-- the characters that octets encode; a byte that encodes nothing has a character of its own -/
def charactersOf : Nat → Octets → List Char
  | 0, _ => []
  | _, [] => []
  | fuel + 1, c :: cs =>
    let width := if c.toNat < 0x80 then 1 else if c.toNat < 0xE0 then 2 else if c.toNat < 0xF0 then 3 else 4
    match Utf8.decode? (toBytes ((c :: cs).take width)) with
    | some s =>
      match s.toList with
      | [x] => x :: charactersOf fuel ((c :: cs).drop width)
      | _ => Char.ofNat (strayBase + c.toNat) :: charactersOf fuel cs
    | none => Char.ofNat (strayBase + c.toNat) :: charactersOf fuel cs

/-- the characters that octets encode; a byte that encodes nothing has a character of its own -/
def characters (cs : Octets) : List Char := charactersOf cs.length cs

/-- the octets of a character -/
def ofCharacter (c : Char) : Octets :=
  if strayBase ≤ c.toNat then [Char.ofNat (c.toNat - strayBase)] else ofBytes (Utf8.encodeChar c)

/-- the octets of characters -/
def ofCharacters (cs : List Char) : Octets := cs.flatMap ofCharacter

/-! ## quotes in messages -/

/-- a text between quotation marks -/
def quoted (cs : Octets) : Octets := ofString "‘" ++ cs ++ ofString "’"

/-- whether a character of a name can stand in a message without quotes -/
def isPlainName (c : Char) : Bool := c.isAlphanum || "%+,-./:=@_".toList.contains c || 0x80 ≤ c.toNat

/-- a name between single quotes, as it could be written in a script -/
def scriptQuoted (cs : Octets) : Octets :=
  if cs.contains '\'' ∧ !cs.any (fun c => "\"$\\!".toList.contains c || c.toNat = 96) then
    '"' :: cs ++ ['"']
  else ['\''] ++ cs.flatMap (fun c => if c = '\'' then "'\\''".toList else [c]) ++ ['\'']

/-- a name, between single quotes only if it needs them -/
def scriptQuotedIfNeeded (cs : Octets) : Octets :=
  if cs ≠ [] ∧ cs.all isPlainName then cs else scriptQuoted cs

example : lines "a\nb".toList = ["a\n".toList, "b".toList] := by decide +kernel
example : characters (ofString "é") = ['é'] := by decide +kernel
example : before "ab".toList "b".toList = true := by decide +kernel

end Octets

end Debate.Shell
