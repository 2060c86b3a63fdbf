/-!
# UTF-8

A character takes one to four bytes. Bytes that are ill-formed are cut into the longest starts of a
character that they hold; a lenient reader puts U+FFFD in place of each.

* `encode`          the bytes of a text;
* `Lead.of?`        what the first byte of a character says about the others;
* `units`           bytes as characters and ill-formed pieces;
* `decode?`         the text of well-formed bytes;
* `decodeLenient`   the text of any bytes.
-/

namespace Debate.Text.Utf8

/-! ## writing -/

/-- the bytes of a character -/
def encodeChar (c : Char) : List UInt8 :=
  let n := c.toNat
  if n < 0x80 then [n.toUInt8]
  else if n < 0x800 then [(0xC0 + n / 64).toUInt8, (0x80 + n % 64).toUInt8]
  else if n < 0x10000 then
    [(0xE0 + n / 4096).toUInt8, (0x80 + n / 64 % 64).toUInt8, (0x80 + n % 64).toUInt8]
  else
    [(0xF0 + n / 262144).toUInt8, (0x80 + n / 4096 % 64).toUInt8, (0x80 + n / 64 % 64).toUInt8,
      (0x80 + n % 64).toUInt8]

/-- the bytes of a text -/
def encode (s : String) : List UInt8 := s.toList.flatMap encodeChar

/-! ## reading -/

/-- what the first byte of a character says: how many follow, in which range the first of them
lies, and its own share of the character -/
structure Lead where
  count : Nat
  low : Nat
  high : Nat
  share : Nat
  deriving DecidableEq, Repr

/-- the first bytes of characters -/
def Lead.of? (byte : UInt8) : Option Lead :=
  let b := byte.toNat
  if b < 0x80 then some ⟨0, 0x80, 0xBF, b⟩
  else if b < 0xC2 then none
  else if b < 0xE0 then some ⟨1, 0x80, 0xBF, b - 0xC0⟩
  else if b = 0xE0 then some ⟨2, 0xA0, 0xBF, 0⟩
  else if b = 0xED then some ⟨2, 0x80, 0x9F, 0xD⟩
  else if b < 0xF0 then some ⟨2, 0x80, 0xBF, b - 0xE0⟩
  else if b = 0xF0 then some ⟨3, 0x90, 0xBF, 0⟩
  else if b < 0xF4 then some ⟨3, 0x80, 0xBF, b - 0xF0⟩
  else if b = 0xF4 then some ⟨3, 0x80, 0x8F, 4⟩
  else none

/-- the bytes that follow a first one: the character, or nothing where a byte does not fit, and the
bytes that are left -/
def finish (count low high value : Nat) : List UInt8 → Option Char × List UInt8
  | [] => (if count = 0 then some (Char.ofNat value) else none, [])
  | b :: bs =>
    match count with
    | 0 => (some (Char.ofNat value), b :: bs)
    | n + 1 =>
      if low ≤ b.toNat ∧ b.toNat ≤ high then
        finish n 0x80 0xBF (value * 64 + (b.toNat - 0x80)) bs
      else (none, b :: bs)

theorem length_finish_le (count low high value : Nat) (bs : List UInt8) :
    (finish count low high value bs).2.length ≤ bs.length := by
  induction bs generalizing count low high value with
  | nil => simp [finish]
  | cons b bs ih =>
    cases count with
    | zero => simp [finish]
    | succ n =>
      rw [finish]
      split
      · exact Nat.le_succ_of_le (ih ..)
      · exact Nat.le_refl _

/-- bytes as characters and ill-formed pieces -/
def units : List UInt8 → List (Option Char)
  | [] => []
  | b :: bs =>
    match Lead.of? b with
    | none => none :: units bs
    | some l =>
      (finish l.count l.low l.high l.share bs).1 ::
        units (finish l.count l.low l.high l.share bs).2
  termination_by bs => bs.length
  decreasing_by
    · simp
    · have := length_finish_le l.count l.low l.high l.share bs
      simp only [List.length_cons]
      omega

/-- the text of well-formed bytes -/
def decode? (bs : List UInt8) : Option String := ((units bs).mapM id).map String.ofList

/-- the text of any bytes, with U+FFFD for each ill-formed piece -/
def decodeLenient (bs : List UInt8) : String :=
  String.ofList ((units bs).map fun u => u.getD '\ufffd')

example : decodeLenient [0x61, 0xE0, 0x80, 0xF0, 0x9F] = "a\ufffd\ufffd\ufffd" := by decide +kernel
example : decode? (encode "aé€👍") = some "aé€👍" := by decide +kernel
example : decode? [0xED, 0xA0, 0x80] = none := by decide +kernel

end Debate.Text.Utf8
