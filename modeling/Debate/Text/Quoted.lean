import Debate.Text.Printable

/-!
# Quoted texts

A text between quotes, as it is shown inside a message: single quotes, or double quotes when the
text holds a single quote and no double one. What cannot be printed is written as an escape with
two, four or eight hexadecimal digits.

* `hexDigits`     a number in lower-case hexadecimal, padded with zeros;
* `escapeChar`    one character between given quotes;
* `quoted`        the whole text.
-/

namespace Debate.Text

/-- the lower-case hexadecimal digit of a number below sixteen -/
def hexDigit (n : Nat) : Char :=
  if n < 10 then Char.ofNat (48 + n) else Char.ofNat (87 + n)

/-- a number in hexadecimal, of exactly the given width, the most significant digit first -/
def hexDigits : Nat → Nat → List Char
  | 0, _ => []
  | width + 1, n => hexDigits width (n / 16) ++ [hexDigit (n % 16)]

theorem length_hexDigits (width n : Nat) : (hexDigits width n).length = width := by
  induction width generalizing n with
  | zero => rfl
  | succ width ih => simp [hexDigits, ih]

/-- one character of a quoted text -/
def escapeChar (quote c : Char) : List Char :=
  if c = quote ∨ c = '\\' then ['\\', c]
  else if c = '\n' then ['\\', 'n']
  else if c = '\r' then ['\\', 'r']
  else if c = '\t' then ['\\', 't']
  else if isPrintable c then [c]
  else if c.toNat < 0x100 then '\\' :: 'x' :: hexDigits 2 c.toNat
  else if c.toNat < 0x10000 then '\\' :: 'u' :: hexDigits 4 c.toNat
  else '\\' :: 'U' :: hexDigits 8 c.toNat

/-- the quote that surrounds a text -/
def quoteOf (cs : List Char) : Char := if cs.contains '\'' && !cs.contains '\"' then '\"' else '\''

/-- a text between quotes -/
def quoted (s : String) : String :=
  let q := quoteOf s.toList
  String.ofList (q :: s.toList.flatMap (escapeChar q) ++ [q])

example : quoted "a\nb" = "'a\\nb'" := by decide +kernel
example : quoted "it's" = "\"it's\"" := by decide +kernel
example : quoted "\x1c7\x1f" = "'\\x1c7\\x1f'" := by decide +kernel

end Debate.Text
