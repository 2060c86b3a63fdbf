/-!
# Bytes to the base 64

* `base64`    bytes written to the base 64;
* `ofBase64`  the bytes that digits to the base 64 write, and whether that was all there is.
-/

namespace Debate.Text

/-- the digits to the base 64 -/
def digits64 : List Char :=
  "ABCDEFGHIJKLMNOPQRSTUVWXYZabcdefghijklmnopqrstuvwxyz0123456789+/".toList

/-- a digit to the base 64 -/
def digit64 (n : Nat) : Char := digits64.getD (n % 64) '='

/-- bytes written to the base 64, three of them as four digits; the last group is filled up -/
def base64 : List UInt8 → List Char
  | a :: b :: c :: rest =>
    let n := 65536 * a.toNat + 256 * b.toNat + c.toNat
    digit64 (n / 262144) :: digit64 (n / 4096) :: digit64 (n / 64) :: digit64 n :: base64 rest
  | [a, b] =>
    let n := 65536 * a.toNat + 256 * b.toNat
    [digit64 (n / 262144), digit64 (n / 4096), digit64 (n / 64), '=']
  | [a] =>
    let n := 65536 * a.toNat
    [digit64 (n / 262144), digit64 (n / 4096), '=', '=']
  | [] => []

theorem length_base64 (bs : List UInt8) : (base64 bs).length = (bs.length + 2) / 3 * 4 := by
  fun_induction base64 bs with
  | case1 a b c rest n ih => simp [ih]; omega
  | case2 => simp
  | case3 => simp
  | case4 => rfl

/-- the value of a digit to the base 64 -/
def value64? (c : Char) : Option Nat := digits64.findIdx? (· = c)

/-- the bytes that digits to the base 64 write, up to what is no group of digits, and whether that was
all there is -/
def ofBase64 : List Char → List UInt8 × Bool
  | [] => ([], true)
  | a :: b :: c :: d :: rest =>
    match value64? a, value64? b, value64? c, value64? d with
    | some a, some b, some c, some d =>
      let n := ((a * 64 + b) * 64 + c) * 64 + d
      let r := ofBase64 rest
      ((n / 65536).toUInt8 :: (n / 256).toUInt8 :: n.toUInt8 :: r.1, r.2)
    | some a, some b, some c, none =>
      let n := ((a * 64 + b) * 64 + c) * 64
      ([(n / 65536).toUInt8, (n / 256).toUInt8], d = '=' && rest.isEmpty)
    | some a, some b, none, _ =>
      let n := (a * 64 + b) * 4096
      ([(n / 65536).toUInt8], c = '=' && d = '=' && rest.isEmpty)
    | _, _, _, _ => ([], false)
  | cs =>
    match cs.mapM value64? with
    | some [a, b] => ([((a * 64 + b) / 16).toUInt8], false)
    | some [a, b, c] =>
      let n := (a * 64 + b) * 64 + c
      ([(n / 1024).toUInt8, (n / 4).toUInt8], false)
    | _ => ([], false)

example : ofBase64 (base64 [104, 105]) = ([104, 105], true) := by decide +kernel

end Debate.Text
