import Debate.Text.Utf8
import Mathlib.Data.List.Basic

/-!
# Bytes written and read

A text that is written as bytes is what is read from them: each character is read back from the
bytes that it takes, whatever follows them.

* `Utf8.lead_two`, `Utf8.lead_three`, `Utf8.lead_four`   what the first byte of a character says;
* `Utf8.units_encodeChar`  one character;
* `Utf8.decode?_encode`    a whole text.
-/

namespace Debate.Text.Utf8

/-- numbers of characters leave out the halves of surrogate pairs -/
theorem toNat_bounds (c : Char) : c.toNat < 0xD800 ∨ 0xDFFF < c.toNat ∧ c.toNat < 0x110000 :=
  c.valid

theorem toNat_toUInt8 {n : Nat} (h : n < 256) : n.toUInt8.toNat = n := by
  rw [Nat.toUInt8, UInt8.toNat_ofNat']
  exact Nat.mod_eq_of_lt h

/-! ## first bytes -/

theorem lead_one {n : Nat} (h : n < 0x80) : Lead.of? n.toUInt8 = some ⟨0, 0x80, 0xBF, n⟩ := by
  rw [Lead.of?, toNat_toUInt8 (by omega)]
  exact if_pos h

theorem lead_two {n : Nat} (h : 0x80 ≤ n) (h' : n < 0x800) :
    Lead.of? (0xC0 + n / 64).toUInt8 = some ⟨1, 0x80, 0xBF, n / 64⟩ := by
  rw [Lead.of?, toNat_toUInt8 (by omega)]
  simp only [show ¬ 0xC0 + n / 64 < 0x80 by omega, show ¬ 0xC0 + n / 64 < 0xC2 by omega,
    show 0xC0 + n / 64 < 0xE0 by omega, if_true, if_false, Nat.add_sub_cancel_left]

/-- the second byte of three has a smaller range where the number would be too small, or half of a
surrogate pair -/
theorem lead_three {n : Nat} (h : 0x800 ≤ n) (h' : n < 0x10000) (hn : n < 0xD800 ∨ 0xDFFF < n) :
    ∃ low high, Lead.of? (0xE0 + n / 4096).toUInt8 = some ⟨2, low, high, n / 4096⟩ ∧
      low ≤ 0x80 + n / 64 % 64 ∧ 0x80 + n / 64 % 64 ≤ high := by
  rw [Lead.of?, toNat_toUInt8 (by omega)]
  simp only [show ¬ 0xE0 + n / 4096 < 0x80 by omega, show ¬ 0xE0 + n / 4096 < 0xC2 by omega,
    show ¬ 0xE0 + n / 4096 < 0xE0 by omega, show 0xE0 + n / 4096 < 0xF0 by omega, if_true, if_false,
    Nat.add_sub_cancel_left]
  split
  case isTrue h0 => exact ⟨0xA0, 0xBF, by rw [show n / 4096 = 0 by omega], by omega, by omega⟩
  split
  case isTrue hd => exact ⟨0x80, 0x9F, by rw [show n / 4096 = 0xD by omega], by omega, by omega⟩
  exact ⟨0x80, 0xBF, rfl, by omega, by omega⟩

/-- the second byte of four has a smaller range where the number would be too small or too large -/
theorem lead_four {n : Nat} (h : 0x10000 ≤ n) (h' : n < 0x110000) :
    ∃ low high, Lead.of? (0xF0 + n / 262144).toUInt8 = some ⟨3, low, high, n / 262144⟩ ∧
      low ≤ 0x80 + n / 4096 % 64 ∧ 0x80 + n / 4096 % 64 ≤ high := by
  rw [Lead.of?, toNat_toUInt8 (by omega)]
  simp only [show ¬ 0xF0 + n / 262144 < 0x80 by omega, show ¬ 0xF0 + n / 262144 < 0xC2 by omega,
    show ¬ 0xF0 + n / 262144 < 0xE0 by omega, show ¬ 0xF0 + n / 262144 = 0xE0 by omega,
    show ¬ 0xF0 + n / 262144 = 0xED by omega, show ¬ 0xF0 + n / 262144 < 0xF0 by omega, if_false,
    Nat.add_sub_cancel_left]
  split
  case isTrue h0 => exact ⟨0x90, 0xBF, by rw [show n / 262144 = 0 by omega], by omega, by omega⟩
  split
  case isTrue hd => exact ⟨0x80, 0xBF, rfl, by omega, by omega⟩
  rw [if_pos (by omega)]
  exact ⟨0x80, 0x8F, by rw [show n / 262144 = 4 by omega], by omega, by omega⟩

/-! ## characters -/

theorem finish_succ {n low high value b : Nat} (bs : List UInt8) (hb : b < 256) (hlow : low ≤ b)
    (hhigh : b ≤ high) :
    finish (n + 1) low high value (b.toUInt8 :: bs) =
      finish n 0x80 0xBF (value * 64 + (b - 0x80)) bs := by
  rw [finish, toNat_toUInt8 hb, if_pos ⟨hlow, hhigh⟩]

theorem finish_zero (low high value : Nat) (bs : List UInt8) :
    finish 0 low high value bs = (some (Char.ofNat value), bs) := by
  cases bs <;> rfl

theorem units_cons {b : UInt8} {count low high share : Nat}
    (hb : Lead.of? b = some ⟨count, low, high, share⟩) (bs : List UInt8) :
    units (b :: bs) = (finish count low high share bs).1 ::
      units (finish count low high share bs).2 := by
  rw [units, hb]

theorem units_encodeChar (c : Char) (bs : List UInt8) :
    units (encodeChar c ++ bs) = some c :: units bs := by
  have hc := toNat_bounds c
  have hback : Char.ofNat c.toNat = c := Char.ofNat_toNat c
  -- by the number of bytes; their shares make up the number of the character
  unfold encodeChar
  generalize c.toNat = n at hc hback
  dsimp only
  split
  case isTrue h1 =>
    rw [List.singleton_append, units_cons (lead_one h1), finish_zero, hback]
  split
  case isTrue h2 =>
    rw [List.cons_append, units_cons (lead_two (by omega) h2), List.singleton_append,
      finish_succ _ (by omega) (by omega) (by omega), finish_zero,
      show n / 64 * 64 + (0x80 + n % 64 - 0x80) = n by omega, hback]
  split
  case isTrue h3 =>
    obtain ⟨low, high, hlead, hlow, hhigh⟩ := lead_three (by omega) h3 (by omega)
    rw [List.cons_append, units_cons hlead, List.cons_append, List.singleton_append,
      finish_succ _ (by omega) hlow hhigh, finish_succ _ (by omega) (by omega) (by omega),
      finish_zero, show (n / 4096 * 64 + (0x80 + n / 64 % 64 - 0x80)) * 64 +
        (0x80 + n % 64 - 0x80) = n by omega, hback]
  case isFalse h3 =>
    obtain ⟨low, high, hlead, hlow, hhigh⟩ := lead_four (n := n) (by omega) (by omega)
    rw [List.cons_append, units_cons hlead, List.cons_append, List.cons_append,
      List.singleton_append, finish_succ _ (by omega) hlow hhigh,
      finish_succ _ (by omega) (by omega) (by omega), finish_succ _ (by omega) (by omega) (by omega),
      finish_zero, show ((n / 262144 * 64 + (0x80 + n / 4096 % 64 - 0x80)) * 64 +
        (0x80 + n / 64 % 64 - 0x80)) * 64 + (0x80 + n % 64 - 0x80) = n by omega, hback]

theorem units_flatMap (cs : List Char) : units (cs.flatMap encodeChar) = cs.map some := by
  induction cs with
  | nil => rw [List.flatMap_nil, units, List.map_nil]
  | cons c cs ih => rw [List.flatMap_cons, units_encodeChar, ih, List.map_cons]

/-- a text is read back from its bytes -/
theorem decode?_encode (s : String) : decode? (encode s) = some s := by
  have hall (cs : List Char) : (cs.map some).mapM id = some cs := by
    induction cs with
    | nil => rfl
    | cons c cs ih => rw [List.map_cons, List.mapM_cons, ih]; rfl
  rw [decode?, encode, units_flatMap, hall, Option.map_some, String.ofList_toList]

end Debate.Text.Utf8
