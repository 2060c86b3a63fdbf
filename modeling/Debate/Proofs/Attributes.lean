import Debate.Notepad.Reply
import Debate.Proofs.Grammar
import Mathlib.Data.Nat.Digits.Defs

/-!
# Attributes

The number in a line attribute is read back, and so are attributes in double quotes that stand one
behind the other in the head of a tag: whatever a value without double quotes holds, it ends no head.

* `Line.read_toString`        a number in decimal is the line that it names;
* `attributeText`             an attribute with its value in double quotes;
* `endsHead_attributes`       attributes end no head;
* `attributesIn_attributes`   attributes are read one after the other.
-/

namespace Debate.Notepad

open Debate.Text Debate.Number

/-! ## line numbers -/

theorem toList_toString (n : Int) :
    (toString n).toList =
      if n < 0 then '-' :: Nat.toDigits 10 n.natAbs else Nat.toDigits 10 n.natAbs := by
  cases n with
  | ofNat n =>
    have hn : ¬ Int.ofNat n < 0 := Int.not_lt.mpr (Int.natCast_nonneg n)
    rw [if_neg hn]
    exact Nat.toList_repr
  | negSucc n =>
    rw [if_pos (Int.negSucc_lt_zero n)]
    show ("-" ++ (n + 1).repr).toList = _
    rw [String.toList_append, Nat.toList_repr]
    rfl

theorem isDigit_bounds {c : Char} (h : c.isDigit = true) : 48 ≤ c.toNat ∧ c.toNat ≤ 57 := by
  simp only [Char.isDigit, Bool.and_eq_true, decide_eq_true_eq] at h
  exact h

theorem isBlank_of_isDigit {c : Char} (h : c.isDigit = true) : isBlank c = false := by
  obtain ⟨hlow, hhigh⟩ := isDigit_bounds h
  simp only [isBlank, Bool.or_eq_false_iff, Bool.and_eq_false_iff, decide_eq_false_iff_not,
    beq_eq_false_iff_ne]
  omega

/-- the characters of a number are no blanks -/
theorem isBlank_toString (n : Int) : ∀ c ∈ (toString n).toList, isBlank c = false := by
  have hdigits : ∀ c ∈ Nat.toDigits 10 n.natAbs, isBlank c = false := fun c hc =>
    isBlank_of_isDigit (Nat.isDigit_of_mem_toDigits (by decide) (by decide) hc)
  intro c hc
  rw [toList_toString] at hc
  split at hc
  · rcases List.mem_cons.mp hc with rfl | hc
    · decide
    · exact hdigits c hc
  · exact hdigits c hc

theorem quote_not_mem_toString (n : Int) : '\"' ∉ (toString n).toList := by
  have hdigits : '\"' ∉ Nat.toDigits 10 n.natAbs := fun hmem =>
    absurd (Nat.isDigit_of_mem_toDigits (by decide) (by decide) hmem) (by decide)
  rw [toList_toString]
  split
  · rw [List.mem_cons, not_or]
    exact ⟨by decide, hdigits⟩
  · exact hdigits

/-- nothing is cut from the ends of a text without the characters that are cut -/
theorem cut_eq_self {p : Char → Bool} {cs : List Char} (h : ∀ c ∈ cs, p c = false) :
    ((cs.dropWhile p).reverse.dropWhile p).reverse = cs := by
  have hkeep (ds : List Char) (hds : ∀ c ∈ ds, p c = false) : ds.dropWhile p = ds := by
    cases ds with
    | nil => rfl
    | cons d ds => rw [List.dropWhile_cons, hds d List.mem_cons_self, if_neg Bool.false_ne_true]
  rw [hkeep cs h, hkeep cs.reverse fun c hc => h c (List.mem_reverse.mp hc), List.reverse_reverse]

theorem digitValue?_of_isDigit {c : Char} (h : c.isDigit = true) :
    digitValue? c = some (c.toNat - '0'.toNat) := by
  obtain ⟨hlow, hhigh⟩ := isDigit_bounds h
  have hzero : (decide (0x30 ≤ c.toNat) && decide (c.toNat < 0x30 + 10)) = true := by
    rw [decide_eq_true hlow, decide_eq_true (by omega)]
    rfl
  have hzeros : digitZeros = 0x30 :: digitZeros.tail := rfl
  have hfind : digitZeros.find? (fun z => z ≤ c.toNat && c.toNat < z + 10) = some 0x30 := by
    rw [hzeros]
    exact List.find?_cons_of_pos hzero
  rw [digitValue?, hfind]
  rfl

theorem readDigits?_of_isDigit {ds : List Char} (h : ∀ d ∈ ds, d.isDigit = true) (value : Nat) :
    readDigits? value ds = some (Nat.ofDigitChars 10 ds value) := by
  induction ds generalizing value with
  | nil => rfl
  | cons d ds ih =>
    have hd : d.isDigit = true := h d List.mem_cons_self
    have hne : d ≠ '_' := by
      rintro rfl
      exact absurd hd (by decide)
    rw [Nat.ofDigitChars_cons, ← ih fun x hx => h x (List.mem_cons_of_mem d hx),
      readDigits?.eq_def]
    split
    · rename_i heq
      cases heq
    · rename_i heq
      exact absurd (List.cons_eq_cons.mp heq).1 hne
    · rename_i heq
      exact absurd (List.cons_eq_cons.mp heq).1 hne
    · rename_i heq
      obtain ⟨rfl, rfl⟩ := List.cons_eq_cons.mp heq
      rw [digitValue?_of_isDigit hd]
      rfl

theorem readNatural?_toDigits {n : Nat} (h : n < 10 ^ 18) :
    readNatural? (Nat.toDigits 10 n) = some n := by
  have hdigits : ∀ d ∈ Nat.toDigits 10 n, d.isDigit = true := fun d hd =>
    Nat.isDigit_of_mem_toDigits (by decide) (by decide) hd
  have hvalue : Nat.ofDigitChars 10 (Nat.toDigits 10 n) 0 = n :=
    Nat.ofDigitChars_toDigits (by decide) (by decide)
  have hlength : (Nat.toDigits 10 n).length ≤ 18 := Nat.toDigits_length 10 n 18 (by decide) h
  cases hds : Nat.toDigits 10 n with
  | nil => exact absurd hds Nat.toDigits_ne_nil
  | cons d ds =>
    rw [hds] at hdigits hvalue hlength
    have hshort : (ds.filter (· ≠ '_')).length < 4300 := by
      have hle := List.length_filter_le (· ≠ '_') ds
      rw [List.length_cons] at hlength
      omega
    rw [Nat.ofDigitChars_cons] at hvalue
    rw [readNatural?, if_pos hshort, digitValue?_of_isDigit (hdigits d List.mem_cons_self),
      Option.bind_eq_bind, Option.bind_some,
      readDigits?_of_isDigit fun x hx => hdigits x (List.mem_cons_of_mem d hx)]
    rw [Nat.mul_zero, Nat.zero_add] at hvalue
    rw [hvalue]

/-- the digits of a number start with no sign -/
theorem toDigits_ne_sign (n : Nat) {c : Char} (hc : c.isDigit = false) (ds : List Char) :
    Nat.toDigits 10 n ≠ c :: ds := by
  intro h
  have hdigit : c.isDigit = true :=
    Nat.isDigit_of_mem_toDigits (b := 10) (n := n) (by decide) (by decide)
      (by rw [h]; exact List.mem_cons_self)
  rw [hc] at hdigit
  cases hdigit

theorem readInteger?_toString {n : Int} (h : n.natAbs < 10 ^ 18) :
    readInteger? (toString n) = some n := by
  have hpad : trimPadding (toString n).toList = (toString n).toList := cut_eq_self fun c hc => by
    rw [isPadding, isBlank_toString n c hc, Bool.false_and]
  rw [readInteger?, hpad, toList_toString]
  by_cases hneg : n < 0
  · rw [if_pos hneg, readSigned?, readNatural?_toDigits h]
    show some (-(n.natAbs : Int)) = some n
    congr 1
    omega
  · rw [if_neg hneg, readSigned?.eq_def]
    split
    · rename_i heq
      exact absurd heq (toDigits_ne_sign _ (by decide) _)
    · rename_i heq
      exact absurd heq (toDigits_ne_sign _ (by decide) _)
    · rw [readNatural?_toDigits h]
      show some (n.natAbs : Int) = some n
      congr 1
      omega

theorem isNumberLike_toString {n : Int} (h : n.natAbs < 10 ^ 18) :
    Line.isNumberLike (toString n).toList = true := by
  have htrim : trimChars (toString n).toList = (toString n).toList := cut_eq_self (isBlank_toString n)
  have hall : (Nat.toDigits 10 n.natAbs).all Char.isDigit = true :=
    List.all_eq_true.mpr fun d hd => Nat.isDigit_of_mem_toDigits (by decide) (by decide) hd
  have hpos : 1 ≤ (Nat.toDigits 10 n.natAbs).length :=
    List.length_pos_iff.mpr Nat.toDigits_ne_nil
  have hshort : (Nat.toDigits 10 n.natAbs).length ≤ 18 :=
    Nat.toDigits_length 10 _ 18 (by decide) h
  have hlike : ((Nat.toDigits 10 n.natAbs).all Char.isDigit &&
      decide (1 ≤ (Nat.toDigits 10 n.natAbs).length) &&
      decide ((Nat.toDigits 10 n.natAbs).length ≤ 18)) = true := by
    rw [hall, decide_eq_true hpos, decide_eq_true hshort]
    rfl
  by_cases hneg : n < 0
  · rw [Line.isNumberLike, htrim, toList_toString, if_pos hneg]
    exact hlike
  · rw [Line.isNumberLike, htrim, toList_toString, if_neg hneg]
    split
    · rename_i heq
      exact absurd heq (toDigits_ne_sign _ (by decide) _)
    · rename_i heq
      exact absurd heq (toDigits_ne_sign _ (by decide) _)
    · exact hlike

theorem Line.read_toString {n : Int} (h : n.natAbs < 10 ^ 18) :
    Line.read (toString n) = .ok (some n) := by
  rw [Line.read, isNumberLike_toString h, if_pos rfl, readInteger?_toString h]

/-! ## attributes in quotes -/

section

variable {before : Nat} {key value rest : List Char}

theorem Tag.EndsHead.add_two (h : Tag.EndsHead before rest) : Tag.EndsHead (before + 2) rest where
  even := by
    have heven := h.even
    omega
  first p s hp := by
    have hodd := h.first p s hp
    omega

/-- a text without quotes changes nothing, if a `>` in it is in quotes -/
theorem Tag.EndsHead.append {cs : List Char} (hcs : '\"' ∉ cs) (hend : before % 2 = 0 → '>' ∉ cs)
    (h : Tag.EndsHead before rest) : Tag.EndsHead before (cs ++ rest) := by
  induction cs with
  | nil => exact h
  | cons c cs ih =>
    rw [List.mem_cons, not_or] at hcs
    have htail : before % 2 = 0 → '>' ∉ cs := fun heven hmem =>
      hend heven (List.mem_cons_of_mem c hmem)
    rw [List.cons_append, Tag.endsHead_cons, if_neg (Ne.symm hcs.1), Nat.add_zero]
    refine ⟨?_, ih hcs.2 htail⟩
    rintro ⟨rfl, heven⟩
    exact hend heven List.mem_cons_self

/-- an attribute as the prompt shows it, with the blank in front of it -/
def attributeText (key value : List Char) : List Char :=
  ' ' :: (key ++ '=' :: '\"' :: (value ++ ['\"']))

theorem attributeText_append (key value rest : List Char) :
    attributeText key value ++ rest =
      ' ' :: (key ++ '=' :: '\"' :: (value ++ '\"' :: rest)) := by
  simp only [attributeText, List.cons_append, List.append_assoc, List.nil_append]

/-- a value in double quotes ends no head, nor does the key in front of it -/
theorem Tag.EndsHead.quoted (hbefore : before % 2 = 0) (hkey : '\"' ∉ key) (hend : '>' ∉ key)
    (hvalue : '\"' ∉ value) (h : Tag.EndsHead before rest) :
    Tag.EndsHead before (key ++ '=' :: '\"' :: (value ++ '\"' :: rest)) := by
  have hclosed : Tag.EndsHead (before + 1) ('\"' :: rest) :=
    Tag.endsHead_cons.mpr ⟨fun hc => absurd hc.1 (by decide), h.add_two⟩
  have hvalued : Tag.EndsHead (before + 1) (value ++ '\"' :: rest) :=
    hclosed.append hvalue fun hodd => by omega
  have hopened : Tag.EndsHead before ('=' :: '\"' :: (value ++ '\"' :: rest)) :=
    Tag.endsHead_cons.mpr ⟨fun hc => absurd hc.1 (by decide),
      Tag.endsHead_cons.mpr ⟨fun hc => absurd hc.1 (by decide), hvalued⟩⟩
  exact hopened.append hkey fun _ => hend

/-- the quotes of an attribute are even in number, and no `>` stands outside of them -/
theorem Tag.EndsHead.attribute (hkey : ∀ c ∈ key, isWordChar c = true) (hvalue : '\"' ∉ value)
    (h : Tag.EndsHead 0 rest) : Tag.EndsHead 0 (attributeText key value ++ rest) := by
  have hquote : '\"' ∉ key := fun hmem => absurd (hkey _ hmem) (by decide +kernel)
  have hgreater : '>' ∉ key := fun hmem => absurd (hkey _ hmem) (by decide +kernel)
  rw [attributeText_append]
  exact Tag.endsHead_cons.mpr ⟨fun hc => absurd hc.1 (by decide),
    h.quoted rfl hquote hgreater hvalue⟩

theorem readAttribute?_attribute (hne : key ≠ []) (hkey : ∀ c ∈ key, isWordChar c = true)
    (hvalue : '\"' ∉ value) :
    Tag.readAttribute? (key ++ '=' :: '\"' :: (value ++ '\"' :: rest)) =
      some ((key, value), rest) := by
  have hequals : isWordChar '=' = false := by decide +kernel
  have hplain : ∀ c ∈ value, decide (c ≠ '\"') = true := fun c hc =>
    decide_eq_true fun heq => hvalue (heq ▸ hc)
  have hkeyEmpty : key.isEmpty = false := List.isEmpty_eq_false_iff.mpr hne
  have htake : (key ++ '=' :: '\"' :: (value ++ '\"' :: rest)).takeWhile isWordChar = key := by
    rw [List.takeWhile_append_of_pos hkey, List.takeWhile_cons, hequals, if_neg Bool.false_ne_true,
      List.append_nil]
  have hdrop : (key ++ '=' :: '\"' :: (value ++ '\"' :: rest)).dropWhile isWordChar =
      '=' :: '\"' :: (value ++ '\"' :: rest) := by
    rw [List.dropWhile_append_of_pos hkey, List.dropWhile_cons, hequals, if_neg Bool.false_ne_true]
  have htakeValue : (value ++ '\"' :: rest).takeWhile (· ≠ '\"') = value := by
    rw [List.takeWhile_append_of_pos hplain, List.takeWhile_cons_of_neg (by decide), List.append_nil]
  have hdropValue : (value ++ '\"' :: rest).dropWhile (· ≠ '\"') = '\"' :: rest := by
    rw [List.dropWhile_append_of_pos hplain, List.dropWhile_cons_of_neg (by decide)]
  rw [Tag.readAttribute?, htake, hdrop, hkeyEmpty, if_neg Bool.false_ne_true]
  simp only [hdropValue, htakeValue]

theorem attributesIn_of_readAttribute? {cs : List Char} {r : (List Char × List Char) × List Char}
    (h : Tag.readAttribute? cs = some r) : Tag.attributesIn cs = r.1 :: Tag.attributesIn r.2 := by
  cases cs with
  | nil => cases h
  | cons c cs =>
    rw [Tag.attributesIn]
    split
    · rename_i r' hr'
      rw [h] at hr'
      rw [Option.some.inj hr']
    · rename_i hnone
      rw [h] at hnone
      cases hnone

/-- a blank is no attribute, and starts none -/
theorem attributesIn_blank (cs : List Char) :
    Tag.attributesIn (' ' :: cs) = Tag.attributesIn cs := by
  have hblank : isWordChar ' ' = false := by decide +kernel
  have hnone : Tag.readAttribute? (' ' :: cs) = none := by
    rw [Tag.readAttribute?, List.takeWhile_cons, hblank]
    rfl
  rw [Tag.attributesIn]
  split
  · rename_i r hr
    rw [hnone] at hr
    cases hr
  · rfl

theorem attributesIn_attribute (hne : key ≠ []) (hkey : ∀ c ∈ key, isWordChar c = true)
    (hvalue : '\"' ∉ value) :
    Tag.attributesIn (attributeText key value ++ rest) = (key, value) :: Tag.attributesIn rest := by
  rw [attributeText_append, attributesIn_blank,
    attributesIn_of_readAttribute? (readAttribute?_attribute hne hkey hvalue)]

end

/-- attributes, one behind the other -/
def attributesText (as : List (String × String)) : List Char :=
  as.flatMap fun a => attributeText a.1.toList a.2.toList

/-- an attribute that is read back: its key is a word, and its value holds no double quotes -/
structure IsQuotable (a : String × String) : Prop where
  named : a.1.toList ≠ []
  key : ∀ c ∈ a.1.toList, isWordChar c = true
  value : '\"' ∉ a.2.toList

theorem isQuotable {key value : String} (hnamed : key.toList ≠ [])
    (hkey : key.toList.all isWordChar = true) (hvalue : '\"' ∉ value.toList) :
    IsQuotable (key, value) := ⟨hnamed, List.all_eq_true.mp hkey, hvalue⟩

section

variable {as : List (String × String)} {rest : List Char}

theorem endsHead_attributes (h : ∀ a ∈ as, IsQuotable a) (hrest : Tag.EndsHead 0 rest) :
    Tag.EndsHead 0 (attributesText as ++ rest) := by
  induction as with
  | nil => exact hrest
  | cons a as ih =>
    have ha : IsQuotable a := h a List.mem_cons_self
    have htail := ih fun b hb => h b (List.mem_cons_of_mem a hb)
    rw [attributesText, List.flatMap_cons, List.append_assoc]
    exact Tag.EndsHead.attribute ha.key ha.value htail

theorem attributesIn_attributes (h : ∀ a ∈ as, IsQuotable a) :
    Tag.attributesIn (attributesText as ++ rest) =
      as.map (fun a => (a.1.toList, a.2.toList)) ++ Tag.attributesIn rest := by
  induction as with
  | nil => rfl
  | cons a as ih =>
    have ha : IsQuotable a := h a List.mem_cons_self
    have htail := ih fun b hb => h b (List.mem_cons_of_mem a hb)
    rw [attributesText, List.flatMap_cons, List.append_assoc,
      attributesIn_attribute ha.named ha.key ha.value, ← attributesText, htail, List.map_cons,
      List.cons_append]

end

end Debate.Notepad
