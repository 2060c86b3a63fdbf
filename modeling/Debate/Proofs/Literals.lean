import Debate.Value.Printer
import Debate.Value.Reader
import Mathlib.Data.List.Basic

/-!
# Texts and integers written and read

A text is read back from what it is written as, character by character, and an integer from its
digits, unless there are too many of them. Neither holds a control when it is written.

* `Value.jsonChar_cases`      how a character of a text is written;
* `Value.readText_jsonText`   a text is read back;
* `Value.Ends`                a text that does not go on with a number;
* `Value.readNumber_jsonInt`  an integer is read back, unless it is too long;
* `Value.not_mem_jsonText`, `Value.not_mem_jsonInt`   no control is written.
-/

namespace Debate

open Debate.Text

namespace Value

/-! ## texts -/

/-- how a character of a text is written: as an escape with a letter, as a unit, or as it is -/
theorem jsonChar_cases (c : Char) :
    (∃ x, jsonChar c = ['\\', x] ∧ escaped? x = some c ∧ x ≠ 'u' ∧ ¬ x.toNat < 32) ∨
      (jsonChar c = '\\' :: 'u' :: hexDigits 4 c.toNat ∧ c.toNat < 32) ∨
      (jsonChar c = [c] ∧ c ≠ '\"' ∧ c ≠ '\\' ∧ ¬ c.toNat < 32) := by
  unfold jsonChar
  split
  case isTrue h => exact .inl ⟨_, rfl, by rw [h]; rfl, by decide, by decide⟩
  split
  case isTrue h => exact .inl ⟨_, rfl, by rw [h]; rfl, by decide, by decide⟩
  split
  case isTrue h => exact .inl ⟨_, rfl, by rw [h]; rfl, by decide, by decide⟩
  split
  case isTrue h => exact .inl ⟨_, rfl, by rw [h]; rfl, by decide, by decide⟩
  split
  case isTrue h => exact .inl ⟨_, rfl, by rw [h]; rfl, by decide, by decide⟩
  split
  case isTrue h => exact .inl ⟨_, rfl, by rw [h]; rfl, by decide, by decide⟩
  split
  case isTrue h => exact .inl ⟨_, rfl, by rw [h]; rfl, by decide, by decide⟩
  split
  case isTrue h => exact .inr (.inl ⟨rfl, h⟩)
  case isFalse hquote hslash _ _ _ _ _ h => exact .inr (.inr ⟨rfl, hquote, hslash, h⟩)

theorem readText_escaped {x c : Char} (hc : escaped? x = some c) (hx : x ≠ 'u')
    (acc rest : List Char) :
    readText acc none ('\\' :: x :: rest) = readText (c :: acc) none rest := by
  rw [readText.eq_def]
  split
  case h_1 heq => cases heq
  case h_2 heq => cases heq
  case h_3 heq => cases heq; exact absurd rfl hx
  case h_4 heq => cases heq; rw [hc]; rfl
  case h_5 hno heq => cases heq; exact (hno _ _ rfl rfl).elim

theorem readText_plain {c : Char} (hquote : c ≠ '\"') (hslash : c ≠ '\\') (h : ¬ c.toNat < 32)
    (acc rest : List Char) : readText acc none (c :: rest) = readText (c :: acc) none rest := by
  rw [readText.eq_def]
  split
  case h_1 heq => cases heq
  case h_2 heq => cases heq; exact absurd rfl hquote
  case h_3 heq => cases heq; exact absurd rfl hslash
  case h_4 heq => cases heq; exact absurd rfl hslash
  case h_5 heq => cases heq; rw [if_neg h]; rfl

theorem readText_unit {n : Nat} (h : n < 32) (acc rest : List Char) :
    readText acc none ('\\' :: 'u' :: hexDigits 4 n ++ rest) =
      readText (Char.ofNat n :: acc) none rest := by
  have hunit : ∀ n < 32, hexUnit? (hexDigit (n / 16 / 16 / 16 % 16)) (hexDigit (n / 16 / 16 % 16))
      (hexDigit (n / 16 % 16)) (hexDigit (n % 16)) = some n := by decide
  have hchar : ∀ n < 32, unitChar n = Char.ofNat n := by decide
  have hdigits : hexDigits 4 n = [hexDigit (n / 16 / 16 / 16 % 16), hexDigit (n / 16 / 16 % 16),
    hexDigit (n / 16 % 16), hexDigit (n % 16)] := rfl
  simp only [hdigits, List.cons_append, List.nil_append, readText, hunit n h]
  rw [if_neg (by omega), pushUnit, hchar n h]

theorem readText_jsonChar (c : Char) (acc rest : List Char) :
    readText acc none (jsonChar c ++ rest) = readText (c :: acc) none rest := by
  rcases jsonChar_cases c with ⟨x, hc, hx, hu, -⟩ | ⟨hc, h⟩ | ⟨hc, hquote, hslash, h⟩
  · rw [hc]
    exact readText_escaped hx hu acc rest
  · rw [hc, readText_unit h, Char.ofNat_toNat]
  · rw [hc]
    exact readText_plain hquote hslash h acc rest

theorem readText_flatMap (cs acc rest : List Char) :
    readText acc none (cs.flatMap jsonChar ++ '\"' :: rest) =
      some (String.ofList (acc.reverse ++ cs), rest) := by
  induction cs generalizing acc with
  | nil => rw [List.flatMap_nil, List.nil_append, List.append_nil]; rfl
  | cons c cs ih =>
    rw [List.flatMap_cons, List.append_assoc, readText_jsonChar, ih, List.reverse_cons,
      List.append_assoc, List.singleton_append]

/-- a text is read back, from behind its opening quote on -/
theorem readText_jsonText (s : String) (rest : List Char) :
    readText [] none (s.toList.flatMap jsonChar ++ '\"' :: rest) = some (s, rest) := by
  rw [readText_flatMap, List.reverse_nil, List.nil_append, String.ofList_toList]

theorem ne_of_control {x : Char} (hx : x.toNat < 32) {c : Char} (hc : ¬ c.toNat < 32) : x ≠ c := by
  rintro rfl
  exact hc hx

theorem not_mem_of_control {x : Char} (hx : x.toNat < 32) {cs : List Char}
    (hcs : cs.all (fun c => !decide (c.toNat < 32)) = true) : x ∉ cs := by
  intro hmem
  simpa [hx] using List.all_eq_true.mp hcs x hmem

theorem not_mem_jsonText {x : Char} (hx : x.toNat < 32) (s : String) : x ∉ jsonText s := by
  have hne {c : Char} (hc : ¬ c.toNat < 32) : x ≠ c := ne_of_control hx hc
  have hhex : ∀ n < 32, (hexDigits 4 n).all (fun c => !decide (c.toNat < 32)) = true := by decide
  have hchar (c : Char) : x ∉ jsonChar c := by
    rcases jsonChar_cases c with ⟨y, hc, -, -, hy⟩ | ⟨hc, h⟩ | ⟨hc, -, -, h⟩ <;> rw [hc]
    · simp [hne (show ¬ '\\'.toNat < 32 by decide), hne hy]
    · have hmem : x ∉ hexDigits 4 c.toNat := not_mem_of_control hx (hhex _ h)
      simp [hne (show ¬ '\\'.toNat < 32 by decide), hne (show ¬ 'u'.toNat < 32 by decide), hmem]
    · exact fun hmem => hne h (List.mem_singleton.mp hmem)
  intro hmem
  rcases List.mem_append.mp hmem with hmem | hmem
  · rcases List.mem_cons.mp hmem with h | hmem
    · exact hne (by decide) h
    · obtain ⟨c, -, hmem⟩ := List.mem_flatMap.mp hmem
      exact hchar c hmem
  · exact hne (by decide) (List.mem_singleton.mp hmem)

/-! ## integers -/

/-- a text that does not go on with a number that stands in front of it -/
def Ends : List Char → Prop
  | [] => True
  | c :: _ => c.isDigit = false ∧ c ≠ '.' ∧ c ≠ 'e' ∧ c ≠ 'E'

theorem spanDigits_append {ds rest : List Char} (hds : ∀ d ∈ ds, d.isDigit = true)
    (hrest : Ends rest) : spanDigits (ds ++ rest) = (ds, rest) := by
  have hstop : rest.takeWhile Char.isDigit = [] ∧ rest.dropWhile Char.isDigit = rest := by
    cases rest with
    | nil => exact ⟨rfl, rfl⟩
    | cons c cs => simp [hrest.1]
  rw [spanDigits, List.takeWhile_append_of_pos hds, List.dropWhile_append_of_pos hds, hstop.1,
    hstop.2, List.append_nil]

theorem isDigit_toDigits (n : Nat) : ∀ d ∈ Nat.toDigits 10 n, d.isDigit = true :=
  fun _ h => Nat.isDigit_of_mem_toDigits (by decide) (by decide) h

/-- only zero is written with a zero in front -/
theorem toDigits_cons_zero {n : Nat} {ds : List Char} (h : Nat.toDigits 10 n = '0' :: ds) :
    ds = [] := by
  induction n using Nat.strongRecOn generalizing ds with
  | ind n ih =>
    by_cases hn : n < 10
    · rw [Nat.toDigits_of_lt_base hn] at h
      exact (List.cons.inj h).2.symm
    · rw [Nat.toDigits_of_base_le (by decide) (by omega)] at h
      cases hq : Nat.toDigits 10 (n / 10) with
      | nil => exact absurd hq Nat.toDigits_ne_nil
      | cons d ds' =>
        rw [hq] at h
        obtain ⟨rfl, -⟩ := List.cons.inj h
        obtain rfl := ih (n / 10) (by omega) hq
        -- the quotient would be zero, and the number less than ten
        have hzero : Nat.ofDigitChars 10 (Nat.toDigits 10 (n / 10)) 0 = 0 := by
          rw [hq]
          rfl
        rw [Nat.ofDigitChars_toDigits (by decide) (by decide)] at hzero
        omega

theorem digitsValue_toDigits (n : Nat) : digitsValue (Nat.toDigits 10 n) = n :=
  Nat.ofDigitChars_toDigits (by decide) (by decide)

theorem readWhole_toDigits (n : Nat) {rest : List Char} (hrest : Ends rest) :
    readWhole (Nat.toDigits 10 n ++ rest) = some (Nat.toDigits 10 n, rest) := by
  cases hds : Nat.toDigits 10 n with
  | nil => exact absurd hds Nat.toDigits_ne_nil
  | cons d ds =>
    by_cases hd : d = '0'
    · subst hd
      rw [toDigits_cons_zero hds]
      rfl
    · have hspan : spanDigits (d :: ds ++ rest) = (d :: ds, rest) :=
        spanDigits_append (hds ▸ isDigit_toDigits n) hrest
      rw [readWhole]
      · rw [hspan]
        rfl
      · rintro tail htail
        exact hd (List.cons.inj htail).1

theorem readUnsigned_toDigits (negative : Bool) (n : Nat) {rest : List Char} (hrest : Ends rest) :
    readUnsigned negative (Nat.toDigits 10 n ++ rest) =
      (wholeNumber negative (Nat.toDigits 10 n)).map (·, rest) := by
  have hfraction : readFraction rest = none := by
    cases rest with
    | nil => rfl
    | cons c cs =>
      rw [readFraction]
      rintro tail htail
      exact hrest.2.1 (List.cons.inj htail).1
  have hexponent : readExponent rest = none := by
    cases rest with
    | nil => rfl
    | cons c cs => exact if_neg (not_or.mpr hrest.2.2)
  rw [readUnsigned, readWhole_toDigits n hrest]
  simp only [hfraction, hexponent, Option.map_none, Option.getD_none]

/-- a value that was read, unless some integer of it is too long -/
def checked {α : Type} (a : α) : Option Nat → Except ReadError α
  | some digits => .error (.hugeInteger digits)
  | none => .ok a

theorem wholeNumber_toDigits (negative : Bool) (n : Int) (hn : negative = decide (n < 0)) :
    wholeNumber negative (Nat.toDigits 10 n.natAbs) = checked (.int n) (tooManyDigits? n) := by
  rw [wholeNumber, tooManyDigits?, digitsValue_toDigits]
  split
  · rfl
  · rw [hn]
    dsimp only [checked]
    congr 2
    by_cases h : n < 0
    · rw [decide_eq_true h, if_pos rfl]
      omega
    · rw [decide_eq_false h, if_neg Bool.false_ne_true]
      omega

/-- an integer is read back, unless it is too long -/
theorem readNumber_jsonInt (n : Int) {rest : List Char} (hrest : Ends rest) :
    readNumber (jsonInt n ++ rest) = (checked (.int n) (tooManyDigits? n)).map (·, rest) := by
  have hds := isDigit_toDigits n.natAbs
  have hread (negative : Bool) := readUnsigned_toDigits negative n.natAbs hrest
  unfold jsonInt
  cases hcs : Nat.toDigits 10 n.natAbs with
  | nil => exact absurd hcs Nat.toDigits_ne_nil
  | cons d ds =>
  -- a digit behind a sign begins no infinity, and a digit in front is no sign
  have hd : d.isDigit = true := hds d (hcs ▸ List.mem_cons_self)
  by_cases hn : n < 0
  · rw [if_pos hn, ← wholeNumber_toDigits true n (decide_eq_true hn).symm, ← hread, hcs,
      readNumber.eq_def]
    split
    case h_1 heq =>
      obtain ⟨rfl, -⟩ := List.cons.inj (List.cons.inj heq).2
      exact absurd hd (by decide)
    case h_2 heq =>
      rw [← (List.cons.inj heq).2]
      rfl
    case h_3 hno => exact (hno _ rfl).elim
  · rw [if_neg hn, ← wholeNumber_toDigits false n (decide_eq_false hn).symm, ← hread, hcs,
      readNumber.eq_def]
    split
    case h_1 heq =>
      obtain ⟨rfl, -⟩ := List.cons.inj heq
      exact absurd hd (by decide)
    case h_2 heq =>
      obtain ⟨rfl, -⟩ := List.cons.inj heq
      exact absurd hd (by decide)
    case h_3 => rfl

theorem not_mem_jsonInt {x : Char} (hx : x.toNat < 32) (n : Int) : x ∉ jsonInt n := by
  have hds : x ∉ Nat.toDigits 10 n.natAbs := by
    intro hmem
    have hdigit : 48 ≤ x.toNat := by
      have h := isDigit_toDigits _ x hmem
      simp only [Char.isDigit, Bool.and_eq_true, decide_eq_true_eq] at h
      exact h.1
    omega
  unfold jsonInt
  split
  · exact fun hmem => (List.mem_cons.mp hmem).elim (ne_of_control hx (by decide)) hds
  · exact hds

end Value

end Debate
