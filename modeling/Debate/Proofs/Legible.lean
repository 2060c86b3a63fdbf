import Debate.Proofs.Attributes
import Mathlib.Data.List.DropRight

/-!
# Attributes told apart

The reader takes a double quote for the start of a value wherever a key stands in front of it, which
is word characters and an equals sign; it does not ask how the key goes on to the left, nor whether
the quote ends another value. So what it finds in a text are the attributes that were written there
if no value ends like a key, unless a key stands in front of that value. Such a text is read by
itself, whatever is put behind it.

* `keyAtEnd?`               the key that a text ends with, if it does;
* `readBehind`              what is read of a value in double quotes behind a text;
* `attributesIn_quoted`     such a value is read, or passed over;
* `Legible`                 a text of values that are read as they are quoted;
* `attributesIn_append`     such a text is read by itself.
-/

namespace Debate.Notepad

open Debate.Text

/-! ## keys in front of a quote -/

/-- the key that a text ends with, if it does: the word characters in front of an equals sign -/
def keyAtEnd? (cs : List Char) : Option (List Char) :=
  if cs.getLast? = some '=' ∧ cs.dropLast.rtakeWhile isWordChar ≠ [] then
    some (cs.dropLast.rtakeWhile isWordChar)
  else none

/-- a value in double quotes behind a text is not taken apart: the text ends with a key, or the value does
not -/
def IsWhole (cs value : List Char) : Prop := keyAtEnd? cs = none → keyAtEnd? value = none

/-- what is read of a value in double quotes behind a text: an attribute, if the text ends with a key -/
def readBehind (cs value : List Char) : List (List Char × List Char) :=
  ((keyAtEnd? cs).map (·, value)).toList

section

variable {cs u w : List Char}

theorem keyAtEnd?_concat (cs : List Char) :
    keyAtEnd? (cs ++ ['=']) =
      if cs.rtakeWhile isWordChar = [] then none else some (cs.rtakeWhile isWordChar) := by
  rw [keyAtEnd?, List.getLast?_concat, List.dropLast_concat]
  by_cases hnil : cs.rtakeWhile isWordChar = []
  · rw [if_neg fun h => h.2 hnil, if_pos hnil]
  · rw [if_pos ⟨rfl, hnil⟩, if_neg hnil]

theorem keyAtEnd?_of_word {key : List Char} (hne : w ≠ []) (hw : key.rtakeWhile isWordChar = w) :
    keyAtEnd? (key ++ ['=']) = some w := by
  rw [keyAtEnd?_concat, hw, if_neg hne]

theorem isWhole_of_some (h : keyAtEnd? cs = some w) (value : List Char) : IsWhole cs value := fun hnone => by
  rw [h] at hnone
  cases hnone

/-- a key at the end of a text is as long as it can be -/
theorem exists_of_keyAtEnd? (h : keyAtEnd? cs = some w) :
    ∃ u, cs = u ++ (w ++ ['=']) ∧ w ≠ [] ∧ (∀ c ∈ w, isWordChar c = true) ∧
      ∀ c ∈ u.getLast?, isWordChar c = false := by
  rw [keyAtEnd?] at h
  split at h
  · rename_i hend
    obtain ⟨hequals, hne⟩ := hend
    cases h
    have hsplit : cs.dropLast.rdropWhile isWordChar ++ cs.dropLast.rtakeWhile isWordChar =
        cs.dropLast := List.rdropWhile_append_rtakeWhile
    refine ⟨cs.dropLast.rdropWhile isWordChar, ?_, hne, fun c hc => List.mem_rtakeWhile_imp hc,
      fun c hc => ?_⟩
    · rw [← List.append_assoc, hsplit, List.dropLast_append_getLast? _ hequals]
    · obtain ⟨hne', hlast⟩ := List.mem_getLast?_eq_getLast hc
      rw [hlast]
      exact Bool.eq_false_iff.mpr (List.rdropWhile_last_not _ _ hne')
  · cases h

theorem keyAtEnd?_ne_none (hne : w ≠ []) (hw : ∀ c ∈ w, isWordChar c = true) (u : List Char) :
    keyAtEnd? (u ++ (w ++ ['='])) ≠ none := by
  have hlast : (u ++ w).rtakeWhile isWordChar ≠ [] := by
    rw [Ne, List.rtakeWhile_eq_nil_iff, not_forall]
    refine ⟨List.append_ne_nil_of_right_ne_nil u hne, fun hnot => hnot (hw _ ?_)⟩
    rw [List.getLast_append_of_ne_nil _ hne]
    exact List.getLast_mem hne
  rw [← List.append_assoc, keyAtEnd?_concat, if_neg hlast]
  exact Option.some_ne_none _

/-- a text that ends with a key does so whatever stands in front of it -/
theorem keyAtEnd?_cons_eq_none {c : Char} (h : keyAtEnd? (c :: cs) = none) : keyAtEnd? cs = none := by
  refine Option.eq_none_iff_forall_ne_some.mpr fun w hsome => ?_
  obtain ⟨u, rfl, hne, hw, -⟩ := exists_of_keyAtEnd? hsome
  exact keyAtEnd?_ne_none hne hw (c :: u) h

end

/-! ## values in quotes -/

/-- what stands in front of the first of some characters is determined -/
theorem eq_of_first {c : Char} {p q r s : List Char} (hp : c ∉ p) (hq : c ∉ q)
    (h : p ++ c :: r = q ++ c :: s) : p = q ∧ r = s := by
  rcases List.append_eq_append_iff.mp h with ⟨a, ha, hr⟩ | ⟨a, ha, hs⟩
  · cases a with
    | nil =>
      rw [List.append_nil] at ha
      exact ⟨ha.symm, (List.cons_eq_cons.mp hr).2⟩
    | cons d a =>
      rw [(List.cons_eq_cons.mp hr).1, ha] at hq
      exact absurd (List.mem_append_right p List.mem_cons_self) hq
  · cases a with
    | nil =>
      rw [List.append_nil] at ha
      exact ⟨ha, (List.cons_eq_cons.mp hs).2.symm⟩
    | cons d a =>
      rw [(List.cons_eq_cons.mp hs).1, ha] at hp
      exact absurd (List.mem_append_right q List.mem_cons_self) hp

section

variable {cs j v r w : List Char}

theorem quote_not_mem_concat {key : List Char} (h : '\"' ∉ key) : '\"' ∉ key ++ ['='] := by
  rw [List.mem_append, not_or]
  exact ⟨h, by decide⟩

theorem quote_not_mem_word (hw : ∀ c ∈ w, isWordChar c = true) : '\"' ∉ w ++ ['='] :=
  quote_not_mem_concat fun hmem => absurd (hw _ hmem) (by decide +kernel)

/-- what an attribute is that was read -/
theorem exists_of_readAttribute? (h : Tag.readAttribute? cs = some ((w, v), r)) :
    cs = w ++ '=' :: '\"' :: (v ++ '\"' :: r) ∧ w ≠ [] ∧ ∀ c ∈ w, isWordChar c = true := by
  unfold Tag.readAttribute? at h
  dsimp only at h
  split at h
  · cases h
  rename_i hne
  split at h
  · rename_i rest hrest
    split at h
    · rename_i c after hafter
      cases h
      have hc : c = '\"' := by
        have hnot := List.head?_dropWhile_not (fun x : Char => decide (x ≠ '\"')) rest
        rw [hafter] at hnot
        simpa using hnot
      have hword : cs.takeWhile isWordChar ++ cs.dropWhile isWordChar = cs :=
        List.takeWhile_append_dropWhile
      have hvalue : rest.takeWhile (fun x : Char => decide (x ≠ '\"')) ++
          rest.dropWhile (fun x : Char => decide (x ≠ '\"')) = rest := List.takeWhile_append_dropWhile
      rw [hrest] at hword
      rw [hafter, hc] at hvalue
      refine ⟨?_, fun hnil => hne (List.isEmpty_iff.mpr hnil), fun x hx => List.mem_takeWhile_imp hx⟩
      rw [hvalue, hword]
    · cases h
  · cases h

/-- in front of the first double quote, only an attribute that starts at once is read -/
theorem eq_word_of_readAttribute? (hj : '\"' ∉ j) {a : (List Char × List Char) × List Char}
    (h : Tag.readAttribute? (j ++ '\"' :: r) = some a) :
    ∃ w, j = w ++ ['='] ∧ w ≠ [] ∧ ∀ c ∈ w, isWordChar c = true := by
  obtain ⟨⟨w, v⟩, s⟩ := a
  obtain ⟨hwritten, hne, hw⟩ := exists_of_readAttribute? h
  have hsplit : j ++ '\"' :: r = (w ++ ['=']) ++ '\"' :: (v ++ '\"' :: s) := by
    rw [hwritten, List.append_assoc, List.singleton_append]
  exact ⟨w, (eq_of_first hj (quote_not_mem_word hw) hsplit).1, hne, hw⟩

theorem attributesIn_of_none {c : Char} (h : Tag.readAttribute? (c :: cs) = none) :
    Tag.attributesIn (c :: cs) = Tag.attributesIn cs := by
  rw [Tag.attributesIn]
  split
  · rename_i a ha
    rw [h] at ha
    cases ha
  · rfl

theorem readAttribute?_keyless (hj : '\"' ∉ j) (h : keyAtEnd? j = none) :
    Tag.readAttribute? (j ++ '\"' :: r) = none := by
  refine Option.eq_none_iff_forall_ne_some.mpr fun a ha => ?_
  obtain ⟨w, rfl, hne, hw⟩ := eq_word_of_readAttribute? hj ha
  exact keyAtEnd?_ne_none hne hw [] h

/-- a double quote without a key in front of it is passed over -/
theorem attributesIn_keyless (hj : '\"' ∉ j) (h : keyAtEnd? j = none) :
    Tag.attributesIn (j ++ '\"' :: r) = Tag.attributesIn r := by
  induction j with
  | nil => exact attributesIn_of_none (readAttribute?_keyless hj h)
  | cons c j ih =>
    have hrest : '\"' ∉ j := fun hmem => hj (List.mem_cons_of_mem c hmem)
    refine (attributesIn_of_none (readAttribute?_keyless hj h)).trans ?_
    exact ih hrest (keyAtEnd?_cons_eq_none h)

/-- what stands in front of a key is passed over, and the value behind it is read -/
theorem attributesIn_keyed (hj : '\"' ∉ j) (h : keyAtEnd? j = some w) (hv : '\"' ∉ v) :
    Tag.attributesIn (j ++ '\"' :: (v ++ '\"' :: r)) = (w, v) :: Tag.attributesIn r := by
  obtain ⟨u, rfl, hne, hw, hu⟩ := exists_of_keyAtEnd? h
  clear h
  induction u with
  | nil =>
    rw [List.nil_append, List.append_assoc, List.singleton_append]
    exact attributesIn_of_readAttribute? (readAttribute?_attribute hne hw hv)
  | cons c u ih =>
    have hrest : '\"' ∉ u ++ (w ++ ['=']) := fun hmem => hj (List.mem_cons_of_mem c hmem)
    have hnone : Tag.readAttribute? ((c :: (u ++ (w ++ ['=']))) ++ '\"' :: (v ++ '\"' :: r)) = none := by
      refine Option.eq_none_iff_forall_ne_some.mpr fun a ha => ?_
      -- the characters up to the quote would all be one word, and the last one of `c :: u` is in none
      obtain ⟨w', hsplit, -, hw'⟩ := eq_word_of_readAttribute? hj ha
      rw [← List.append_assoc] at hsplit
      have hlast : ((c :: u).getLast (List.cons_ne_nil c u)) ∈ w' := by
        rw [← List.append_cancel_right hsplit]
        exact List.mem_append_left w (List.getLast_mem _)
      have hnot := hu _ (List.getLast?_eq_some_getLast (List.cons_ne_nil c u))
      rw [hw' _ hlast] at hnot
      cases hnot
    have hstop : ∀ d ∈ u.getLast?, isWordChar d = false := fun d hd =>
      have hlast : d ∈ ([c] ++ u).getLast? := List.mem_getLast?_append_of_mem_getLast? hd
      hu d hlast
    exact (attributesIn_of_none hnone).trans (ih hrest hstop)

/-- a value in double quotes is read with the key in front of it; without one it is passed over, if it
does not end like a key -/
theorem attributesIn_quoted (hj : '\"' ∉ j) (hv : '\"' ∉ v) (h : IsWhole j v) :
    Tag.attributesIn (j ++ '\"' :: (v ++ '\"' :: r)) =
      readBehind j v ++ Tag.attributesIn r := by
  rw [readBehind]
  cases hkey : keyAtEnd? j with
  | some w => exact attributesIn_keyed hj hkey hv
  | none => exact (attributesIn_keyless hj hkey).trans (attributesIn_keyless hv (h hkey))

end

/-! ## legible texts -/

/-- a text whose double quotes come in pairs, and in which no value ends like a key that does not
follow a key itself -/
inductive Legible : List Char → Prop where
  | plain {j : List Char} (hj : '\"' ∉ j) : Legible j
  | quoted {j v s : List Char} (hj : '\"' ∉ j) (hv : '\"' ∉ v)
      (hwhole : IsWhole j v) (hs : Legible s) :
      Legible (j ++ '\"' :: (v ++ '\"' :: s))

/-- no attribute lies across the place between two texts -/
def Apart (cs ds : List Char) : Prop :=
  ∀ c ∈ cs.getLast?, ∀ d ∈ ds.head?, c = '\"' ∨ isBlank c = true ∨ isBlank d = true ∨ d = '/'

section

variable {cs ds j : List Char}

/-- what is false of each of the blanks -/
theorem of_isBlank {p : Char → Bool} (hp : ∀ n ∈ List.range' 9 5 ++ (List.range' 28 5 ++
      (List.range' 0x2000 11 ++ [0x85, 0xA0, 0x1680, 0x2028, 0x2029, 0x202F, 0x205F, 0x3000])),
    p (Char.ofNat n) = false) {c : Char} (h : isBlank c = true) : p c = false := by
  rw [← Char.ofNat_toNat c]
  refine hp _ ?_
  simp only [isBlank, Bool.or_eq_true, Bool.and_eq_true, decide_eq_true_eq, beq_iff_eq] at h
  simp only [List.mem_append, List.mem_range'_1, List.mem_cons, List.not_mem_nil, or_false]
  omega

theorem isWordChar_of_isBlank {c : Char} (h : isBlank c = true) : isWordChar c = false :=
  of_isBlank (by decide +kernel) h

theorem isNameChar_of_isBlank {c : Char} (h : isBlank c = true) : isNameChar c = false :=
  of_isBlank (by decide +kernel) h

theorem Apart.of_append (h : Apart (j ++ cs) ds) : Apart cs ds := fun _ hc =>
  h _ (List.mem_getLast?_append_of_mem_getLast? hc)

/-- none of the characters up to a quote with a key in front of it is blank, or a slash -/
theorem not_apart_of_mem {c : Char} {w : List Char} (hw : ∀ c ∈ w, isWordChar c = true)
    (hc : c ∈ w ++ ['=', '\"']) : isBlank c = false ∧ c ≠ '/' := by
  rcases List.mem_append.mp hc with hc | hc
  · have hword := hw c hc
    refine ⟨Bool.eq_false_iff.mpr fun hblank => ?_, ?_⟩
    · rw [isWordChar_of_isBlank hblank] at hword
      cases hword
    · rintro rfl
      exact absurd hword (by decide +kernel)
  · rcases List.mem_pair.mp hc with rfl | rfl
    · exact ⟨by decide, by decide⟩
    · exact ⟨by decide, by decide⟩

/-- no attribute starts in a text without double quotes and goes on behind it -/
theorem attributesIn_plain (hj : '\"' ∉ j) (h : Apart j ds) :
    Tag.attributesIn (j ++ ds) = Tag.attributesIn ds := by
  induction j with
  | nil => rfl
  | cons c j ih =>
    have hnone : Tag.readAttribute? ((c :: j) ++ ds) = none := by
      refine Option.eq_none_iff_forall_ne_some.mpr fun a ha => ?_
      obtain ⟨⟨w, v⟩, s⟩ := a
      obtain ⟨hwritten, -, hw⟩ := exists_of_readAttribute? ha
      -- the place would lie in the key, or between the key and its quote
      obtain ⟨p, hp, hds⟩ : ∃ p, w ++ ['='] = (c :: j) ++ p ∧ ds = p ++ '\"' :: (v ++ '\"' :: s) := by
        have hsplit : (c :: j) ++ ds = (w ++ ['=']) ++ '\"' :: (v ++ '\"' :: s) := by
          rw [hwritten, List.append_assoc, List.singleton_append]
        rcases List.append_eq_append_iff.mp hsplit with ⟨p, hp, hds⟩ | ⟨p, hp, hds⟩
        · exact ⟨p, hp, hds⟩
        · cases p with
          | nil => exact ⟨[], by rw [hp, List.append_nil, List.append_nil], hds.symm⟩
          | cons d p =>
            rw [hp, ← (List.cons_eq_cons.mp hds).1] at hj
            exact absurd (List.mem_append_right _ List.mem_cons_self) hj
      have hkey : ∀ x ∈ (c :: j) ++ (p ++ ['\"']), isBlank x = false ∧ x ≠ '/' := by
        intro x hx
        rw [← List.append_assoc, ← hp, List.append_assoc] at hx
        exact not_apart_of_mem hw hx
      have hlast := List.getLast?_eq_some_getLast (List.cons_ne_nil c j)
      obtain ⟨d, hd, hmem⟩ : ∃ d ∈ ds.head?, d ∈ p ++ ['\"'] := by
        cases p with
        | nil => exact ⟨'\"', by rw [hds]; rfl, List.mem_singleton_self _⟩
        | cons d p => exact ⟨d, by rw [hds]; rfl, List.mem_cons_self⟩
      obtain ⟨hblank, -⟩ := hkey _ (List.mem_append_left _ (List.getLast_mem (List.cons_ne_nil c j)))
      obtain ⟨hblank', hslash⟩ := hkey d (List.mem_append_right _ hmem)
      rcases h _ hlast d hd with hquote | hb | hb | hs
      · exact hj (hquote ▸ List.getLast_mem (List.cons_ne_nil c j))
      · rw [hblank] at hb
        cases hb
      · rw [hblank'] at hb
        cases hb
      · exact hslash hs
    have hrest : '\"' ∉ j := fun hmem => hj (List.mem_cons_of_mem c hmem)
    exact (attributesIn_of_none hnone).trans (ih hrest (Apart.of_append (j := [c]) h))

theorem attributesIn_of_not_mem (hj : '\"' ∉ j) : Tag.attributesIn j = [] := by
  have hself : Tag.attributesIn (j ++ []) = Tag.attributesIn [] := attributesIn_plain hj nofun
  rwa [List.append_nil, Tag.attributesIn.eq_1] at hself

theorem Legible.count_quote (h : Legible cs) : cs.count '\"' % 2 = 0 := by
  induction h with
  | plain hj => rw [List.count_eq_zero_of_not_mem hj]
  | quoted hj hv _ _ ih =>
    simp only [List.count_append, List.count_cons_self, List.count_eq_zero_of_not_mem hj,
      List.count_eq_zero_of_not_mem hv]
    omega

/-- plain text behind a legible one -/
theorem Legible.append_plain (h : Legible cs) (hj : '\"' ∉ j) : Legible (cs ++ j) := by
  induction h with
  | plain hj' => exact .plain fun hmem => (List.mem_append.mp hmem).elim hj' hj
  | quoted hj' hv hwhole _ ih =>
    rw [List.append_assoc, List.cons_append, List.append_assoc, List.cons_append]
    exact .quoted hj' hv hwhole ih

/-- a legible text is read by itself, whatever stands behind it -/
theorem attributesIn_append (h : Legible cs) (hapart : Apart cs ds) :
    Tag.attributesIn (cs ++ ds) = Tag.attributesIn cs ++ Tag.attributesIn ds := by
  induction h with
  | @plain j hj =>
    rw [attributesIn_plain hj hapart, attributesIn_of_not_mem hj, List.nil_append]
  | @quoted j v s hj hv hwhole _ ih =>
    have hsplit : j ++ '\"' :: (v ++ '\"' :: s) = (j ++ '\"' :: (v ++ ['\"'])) ++ s := by
      simp only [List.append_assoc, List.cons_append, List.nil_append]
    have hrest : Apart s ds := Apart.of_append (hsplit ▸ hapart)
    rw [List.append_assoc, List.cons_append, List.append_assoc, List.cons_append,
      attributesIn_quoted hj hv hwhole, attributesIn_quoted hj hv hwhole, ih hrest, List.append_assoc]

end

end Debate.Notepad
