import Debate.Proofs.Attributes
import Mathlib.Data.List.TakeWhile

/-!
# What spoils a reply

Every reply can be read, with one exception. A line attribute counts as a number if one to eighteen
digits stand in it, with a sign or without one, and blanks around them. The information separators
U+001C to U+001F are such blanks, yet no integer is read with one of them beside it. So a line
attribute that looks like a number and holds a separator spoils the reply that it stands in, and
nothing else does.

* `isSeparator`               the information separators;
* `Line.valueOf`              the number that a sign and digits write;
* `Line.read_eq`              what is read of any line attribute;
* `Tag.spoiler?`              the line attribute by which a tag spoils its reply, if it does;
* `Tag.edit_eq_error_iff`     no other tag does;
* `Reply.editsOf_eq`          the edits of tags, one after the other;
* `Reply.read_unless_spoiled` when a reply can be read, and what it says then.
-/

namespace Debate.Notepad

open Debate.Text Debate.Number

/-- an information separator -/
def isSeparator (c : Char) : Bool := 28 ≤ c.toNat && c.toNat ≤ 31

theorem isPadding_eq (c : Char) : isPadding c = (isBlank c && !isSeparator c) := rfl

theorem digitValue?_of_isSeparator {c : Char} (h : isSeparator c = true) : digitValue? c = none := by
  have hzeros : ∀ z ∈ digitZeros, 48 ≤ z := by decide
  simp only [isSeparator, Bool.and_eq_true, decide_eq_true_eq] at h
  rw [digitValue?, Option.map_eq_none_iff, List.find?_eq_none]
  intro z hz
  have hlow := hzeros z hz
  simp only [Bool.and_eq_true, decide_eq_true_eq]
  omega

/-! ## what is cut from the ends of a text -/

/-- only what is cut is lost -/
theorem mem_cut_of_mem {p : Char → Bool} {cs : List Char} {c : Char} (hc : c ∈ cs)
    (hp : p c = false) : c ∈ ((cs.dropWhile p).reverse.dropWhile p).reverse := by
  have hkept (ds : List Char) (hd : c ∈ ds) : c ∈ ds.dropWhile p := by
    rw [← List.takeWhile_append_dropWhile (p := p) (l := ds), List.mem_append] at hd
    rcases hd with hd | hd
    · have htrue := List.mem_takeWhile_imp hd
      rw [hp] at htrue
      cases htrue
    · exact hd
  rw [List.mem_reverse]
  exact hkept _ (List.mem_reverse.mpr (hkept cs hc))

/-- tests that agree on a text cut the same -/
theorem cut_congr {p q : Char → Bool} {cs : List Char} (h : ∀ c ∈ cs, p c = q c) :
    ((cs.dropWhile p).reverse.dropWhile p).reverse =
      ((cs.dropWhile q).reverse.dropWhile q).reverse := by
  have hsame (ds : List Char) (hds : ∀ c ∈ ds, p c = q c) : ds.dropWhile p = ds.dropWhile q := by
    induction ds with
    | nil => rfl
    | cons d ds ih =>
      rw [List.dropWhile_cons, List.dropWhile_cons, hds d List.mem_cons_self,
        ih fun c hc => hds c (List.mem_cons_of_mem d hc)]
  have hrest : ∀ c ∈ (cs.dropWhile q).reverse, p c = q c := fun c hc =>
    h c ((List.dropWhile_sublist q).mem (List.mem_reverse.mp hc))
  rw [hsame cs h, hsame _ hrest]

/-! ## line attributes -/

/-- no separator stands among the digits of a numeral -/
theorem readDigits?_of_mem {cs : List Char} {c : Char} (hc : c ∈ cs) (h : isSeparator c = true)
    (value : Nat) : readDigits? value cs = none := by
  have hvalue := digitValue?_of_isSeparator h
  have hne : c ≠ '_' := by
    rintro rfl
    cases h
  fun_induction readDigits? value cs with
  | case1 => cases hc
  | case2 => exact absurd (List.mem_singleton.mp hc) hne
  | case3 value d ds ih =>
    rcases List.mem_cons.mp hc with hfirst | hc
    · exact absurd hfirst hne
    rcases List.mem_cons.mp hc with rfl | hc
    · rw [hvalue]
      rfl
    · cases hd : digitValue? d with
      | none => rfl
      | some n => exact ih n hc
  | case4 value d ds _ _ ih =>
    rcases List.mem_cons.mp hc with rfl | hc
    · rw [hvalue]
      rfl
    · cases hd : digitValue? d with
      | none => rfl
      | some n => exact ih n hc

theorem readNatural?_of_mem {cs : List Char} {c : Char} (hc : c ∈ cs) (h : isSeparator c = true) :
    readNatural? cs = none := by
  cases cs with
  | nil => cases hc
  | cons d ds =>
    rw [readNatural?]
    split
    · rcases List.mem_cons.mp hc with rfl | hc
      · rw [digitValue?_of_isSeparator h]
        rfl
      · cases hd : digitValue? d with
        | none => rfl
        | some n => exact readDigits?_of_mem hc h n
    · rfl

theorem readSigned?_of_mem {cs : List Char} {c : Char} (hc : c ∈ cs) (h : isSeparator c = true) :
    readSigned? cs = none := by
  have htail {sign : Char} (hsign : isSeparator sign = false) {ds : List Char}
      (hmem : c ∈ sign :: ds) : c ∈ ds := by
    rcases List.mem_cons.mp hmem with rfl | hmem
    · rw [h] at hsign
      cases hsign
    · exact hmem
  rw [readSigned?.eq_def]
  split
  · rw [readNatural?_of_mem (htail (by decide) hc) h]
    rfl
  · rw [readNatural?_of_mem (htail (by decide) hc) h]
    rfl
  · rw [readNatural?_of_mem hc h]
    rfl

/-- a few digits can be read -/
theorem readNatural?_of_isDigit {ds : List Char} (hall : ∀ d ∈ ds, d.isDigit = true)
    (hpos : 1 ≤ ds.length) (hshort : ds.length ≤ 18) :
    readNatural? ds = some (Nat.ofDigitChars 10 ds 0) := by
  cases ds with
  | nil => cases hpos
  | cons d ds =>
    have hfew : (ds.filter (· ≠ '_')).length < 4300 := by
      have hle := List.length_filter_le (· ≠ '_') ds
      rw [List.length_cons] at hshort
      omega
    rw [readNatural?, if_pos hfew, digitValue?_of_isDigit (hall d List.mem_cons_self),
      Option.bind_eq_bind, Option.bind_some,
      readDigits?_of_isDigit fun x hx => hall x (List.mem_cons_of_mem d hx), Nat.ofDigitChars_cons,
      Nat.mul_zero, Nat.zero_add]

namespace Line

/-- the number that digits write, with a sign or without one -/
def valueOf : List Char → Int
  | '-' :: ds => -(Nat.ofDigitChars 10 ds 0 : Int)
  | '+' :: ds => Nat.ofDigitChars 10 ds 0
  | ds => Nat.ofDigitChars 10 ds 0

/-- what looks like a number is one once the blanks around it are gone -/
theorem readSigned?_of_isNumberLike {cs : List Char} (h : isNumberLike cs = true) :
    readSigned? (trimChars cs) = some (valueOf (trimChars cs)) := by
  rw [isNumberLike, Bool.and_eq_true, Bool.and_eq_true, List.all_eq_true, decide_eq_true_eq,
    decide_eq_true_eq] at h
  obtain ⟨⟨hall, hpos⟩, hshort⟩ := h
  have hdigits := readNatural?_of_isDigit hall hpos hshort
  generalize trimChars cs = body at hdigits ⊢
  split at hdigits
  · rw [readSigned?, hdigits]
    rfl
  · rw [readSigned?, hdigits]
    rfl
  · rename_i hplus hminus
    rw [readSigned?, hdigits, valueOf]
    · rfl
    · exact hminus
    · exact hplus
    · exact hminus
    · exact hplus

/-- blanks around it, but no separators, are cut from a number before it is read -/
theorem trimPadding_of_no_separator {cs : List Char} (h : ∀ c ∈ cs, isSeparator c = false) :
    trimPadding cs = trimChars cs :=
  cut_congr fun c hc => by rw [isPadding_eq, h c hc, Bool.not_false, Bool.and_true]

/-- a line attribute that does not look like a number is passed over, and one that does is read
unless a separator stands in it -/
theorem read_eq (value : String) :
    read value =
      if isNumberLike value.toList then
        if value.toList.any isSeparator then .error ⟨value⟩
        else .ok (some (valueOf (trimChars value.toList)))
      else .ok none := by
  rw [read]
  by_cases hlike : isNumberLike value.toList = true
  · rw [if_pos hlike, if_pos hlike, readInteger?]
    by_cases hany : value.toList.any isSeparator = true
    · obtain ⟨c, hc, hsep⟩ := List.any_eq_true.mp hany
      have hkept : c ∈ trimPadding value.toList :=
        mem_cut_of_mem hc (by rw [isPadding_eq, hsep, Bool.not_true, Bool.and_false])
      rw [if_pos hany, readSigned?_of_mem hkept hsep]
    · have hnone : ∀ c ∈ value.toList, isSeparator c = false := fun c hc =>
        Bool.eq_false_iff.mpr fun hsep => hany (List.any_eq_true.mpr ⟨c, hc, hsep⟩)
      rw [if_neg hany, trimPadding_of_no_separator hnone, readSigned?_of_isNumberLike hlike]
  · rw [if_neg hlike, if_neg hlike]

theorem read_eq_error_iff {value : String} {e : BadLine} :
    read value = .error e ↔
      e.written = value ∧ (isNumberLike value.toList && value.toList.any isSeparator) = true := by
  obtain ⟨written⟩ := e
  rw [read_eq]
  cases isNumberLike value.toList <;> cases value.toList.any isSeparator <;> simp [eq_comm]

end Line

/-! ## tags -/

namespace Tag

/-- the tags that name a line -/
def namesLine (t : Tag) : Bool := ["insert", "replace", "delete"].contains t.name

/-- the line attribute by which a tag spoils its reply: it looks like a number, and holds a separator -/
def spoiler? (t : Tag) : Option String :=
  if t.namesLine then
    (t.attribute? "line").filter fun value =>
      Line.isNumberLike value.toList && value.toList.any isSeparator
  else none

/-- the edit that a tag makes, whatever the other tags are -/
def edit? (t : Tag) : Option Edit := t.edit.toOption.join

theorem line_eq_error_iff {t : Tag} {e : BadLine} :
    t.line = .error e ↔ (t.attribute? "line").filter (fun value =>
      Line.isNumberLike value.toList && value.toList.any isSeparator) = some e.written := by
  rw [line]
  cases t.attribute? "line" with
  | none => simp
  | some value =>
    rw [Option.filter_eq_some_iff, Option.some.injEq, eq_comm (a := value)]
    exact Line.read_eq_error_iff.trans (and_congr_right fun hvalue => by rw [hvalue])

theorem map_eq_error_iff {ε α β : Type} {x : Except ε α} {f : α → β} {e : ε} :
    x.map f = .error e ↔ x = .error e := by
  cases x <;> simp [Except.map]

/-- a tag spoils a reply by its line attribute, and in no other way -/
theorem edit_eq_error_iff {t : Tag} {e : BadLine} :
    t.edit = .error e ↔ t.spoiler? = some e.written := by
  have hnamed (f : Int → Edit) (h : t.namesLine = true) :
      t.line.map (Option.map f) = .error e ↔ t.spoiler? = some e.written := by
    rw [map_eq_error_iff, line_eq_error_iff, spoiler?, if_pos h]
  have hother {x : Option Edit} (h : t.namesLine = false) :
      (Except.ok x : Except BadLine (Option Edit)) = .error e ↔ t.spoiler? = some e.written := by
    rw [spoiler?, h, if_neg Bool.false_ne_true]
    simp
  rw [edit]
  split
  case h_8 hinsert hreplace hdelete _ =>
    refine hother (Bool.eq_false_iff.mpr fun h => ?_)
    rw [namesLine, List.contains_iff_mem] at h
    simp only [List.mem_cons, List.not_mem_nil, or_false] at h
    exact h.elim hinsert fun h => h.elim hreplace hdelete
  all_goals rename_i hname
  case h_4 | h_5 | h_6 => exact hnamed _ (by rw [namesLine, hname]; rfl)
  all_goals exact hother (by rw [namesLine, hname]; rfl)

theorem edit_eq_ok {t : Tag} (h : t.spoiler? = none) : t.edit = .ok t.edit? := by
  rw [edit?]
  cases he : t.edit with
  | ok x => rfl
  | error e =>
    rw [edit_eq_error_iff, h] at he
    cases he

end Tag

/-! ## replies -/

namespace Reply

/-- the edits of tags are those that each of them makes, unless one spoils the reply; the first that does
is the one that is told of -/
theorem editsOf_eq (ts : List Tag) :
    editsOf ts =
      match ts.findSome? Tag.spoiler? with
      | some value => .error ⟨value⟩
      | none => .ok (ts.filterMap Tag.edit?) := by
  induction ts with
  | nil => rfl
  | cons t ts ih =>
    rw [editsOf, List.findSome?_cons]
    cases ht : t.spoiler? with
    | some value =>
      have herror : t.edit = .error ⟨value⟩ := Tag.edit_eq_error_iff.mpr ht
      rw [herror]
      rfl
    | none =>
      rw [Tag.edit_eq_ok ht, ih]
      cases ts.findSome? Tag.spoiler? with
      | some value => rfl
      | none =>
        rw [List.filterMap_cons]
        cases t.edit? <;> rfl

/-- what a reply says and the edits of its tags, each on its own -/
def ofTags (raw : String) : Reply where
  spoken := String.ofList (trimChars (residual raw.toList))
  edits := (tags raw.toList).filterMap Tag.edit?

/-- a reply can be read if, and only if, none of its tags spoils it, and then each tag makes its own edit
or none; the first tag that spoils it is the one that is told of -/
theorem read_unless_spoiled (raw : String) :
    (∀ r, read raw = .ok r ↔ (∀ t ∈ tags raw.toList, t.spoiler? = none) ∧ r = ofTags raw) ∧
      ∀ value, read raw = .error ⟨value⟩ ↔ ∃ before t after, tags raw.toList = before ++ t :: after ∧
        t.spoiler? = some value ∧ ∀ x ∈ before, x.spoiler? = none := by
  have hread : read raw =
      match (tags raw.toList).findSome? Tag.spoiler? with
      | some value => .error ⟨value⟩
      | none => .ok (ofTags raw) := by
    rw [read, editsOf_eq]
    cases (tags raw.toList).findSome? Tag.spoiler? <;> rfl
  rw [hread]
  refine ⟨fun r => ?_, fun value => ?_⟩
  · rw [← List.findSome?_eq_none_iff]
    cases (tags raw.toList).findSome? Tag.spoiler? with
    | none => simp [eq_comm]
    | some spoiler => simp
  · rw [← List.findSome?_eq_some_iff]
    cases (tags raw.toList).findSome? Tag.spoiler? with
    | none => simp
    | some spoiler => simp

/-- a separator beside the number of a line spoils a reply that has another edit, too -/
theorem read_separated :
    Line.isNumberLike "\x1c7".toList = true ∧
      read "<np-append>kept</np-append> <np-delete line=\"\x1c7\"/>" = .error ⟨"\x1c7"⟩ := by
  decide +kernel

end Reply

end Debate.Notepad
