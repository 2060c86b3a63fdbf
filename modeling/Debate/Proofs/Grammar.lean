import Debate.Notepad.Tag

/-!
# The grammar of tags

What it means that a tag stands in front of a text, said without the reader: the name is as long as
it can be, the head ends at the first `>` behind an even number of double quotes, and the content is
as short as it can be. The reader finds a tag exactly where one stands.

* `Tag.EndsHead`       a head that ends at the first place where it can;
* `Tag.EndsContent`    a content that ends at the first place where it can;
* `Tag.Stands`         a tag that stands in front of a text;
* `Tag.read?_eq_some_iff`   the reader finds the tags that stand there, and no others.
-/

namespace Debate.Notepad

/-- a text that starts with another one, in any case -/
theorem dropFolded?_eq_some_iff {l cs w rest : List Char} :
    dropFolded? l cs = some (w, rest) ↔ w ++ rest = cs ∧ w.map foldCase = l := by
  induction l generalizing cs w with
  | nil =>
    rw [dropFolded?, Option.some.injEq, Prod.mk.injEq, List.map_eq_nil_iff]
    constructor
    · rintro ⟨rfl, rfl⟩
      exact ⟨rfl, rfl⟩
    · rintro ⟨h, rfl⟩
      exact ⟨rfl, h.symm⟩
  | cons a l ih =>
    cases cs with
    | nil =>
      rw [dropFolded?, List.append_eq_nil_iff]
      constructor
      · intro h
        cases h
      · rintro ⟨⟨rfl, -⟩, hl⟩
        cases hl
    | cons c cs =>
      rw [dropFolded?]
      constructor
      · intro h
        split at h
        · rename_i hc
          obtain ⟨⟨w', rest'⟩, hr, heq⟩ := Option.map_eq_some_iff.mp h
          obtain ⟨rfl, rfl⟩ := Prod.mk.inj heq
          obtain ⟨happend, hfold⟩ := ih.mp hr
          refine ⟨?_, ?_⟩
          · rw [List.cons_append, happend]
          · rw [List.map_cons, hfold, hc]
        · cases h
      · rintro ⟨happend, hfold⟩
        cases w with
        | nil => cases hfold
        | cons d w =>
          obtain ⟨rfl, htail⟩ := List.cons_eq_cons.mp happend
          obtain ⟨hd, hfold'⟩ := List.cons_eq_cons.mp hfold
          rw [if_pos hd, ih.mpr ⟨htail, hfold'⟩]
          rfl

namespace Tag

/-! ## heads -/

/-- a head that the first `>` behind an even number of double quotes ends, where `before` is the
number of double quotes in front of it -/
structure EndsHead (before : Nat) (head : List Char) : Prop where
  even : (before + head.count '\"') % 2 = 0
  first : ∀ p s, head = p ++ '>' :: s → (before + p.count '\"') % 2 = 1

theorem endsHead_nil {before : Nat} (h : before % 2 = 0) : EndsHead before [] where
  even := h
  first p s hp := by
    have hlength := congrArg List.length hp
    rw [List.length_append, List.length_cons, List.length_nil] at hlength
    omega

theorem endsHead_cons {before : Nat} {c : Char} {cs : List Char} :
    EndsHead before (c :: cs) ↔
      ¬ (c = '>' ∧ before % 2 = 0) ∧ EndsHead (before + if c = '\"' then 1 else 0) cs := by
  have hcount (p : List Char) :
      before + (c :: p).count '\"' = before + (if c = '\"' then 1 else 0) + p.count '\"' := by
    rw [List.count_cons]
    by_cases hc : c = '\"'
    · simp only [hc, beq_self_eq_true, if_true]
      omega
    · simp only [hc, beq_eq_false_iff_ne.mpr hc, if_false, Bool.false_eq_true]
      omega
  constructor
  · intro h
    refine ⟨?_, ?_, fun p s hp => ?_⟩
    · rintro ⟨rfl, heven⟩
      have hodd : (before + ([] : List Char).count '\"') % 2 = 1 := h.first [] cs rfl
      rw [List.count_nil] at hodd
      omega
    · rw [← hcount]
      exact h.even
    · rw [← hcount]
      exact h.first (c :: p) s (by rw [hp, List.cons_append])
  · rintro ⟨hc, h⟩
    refine ⟨?_, fun p s hp => ?_⟩
    · rw [hcount]
      exact h.even
    · cases p with
      | nil =>
        obtain ⟨rfl, -⟩ := List.cons_eq_cons.mp hp
        have hodd : ¬ before % 2 = 0 := fun heven => hc ⟨rfl, heven⟩
        rw [List.count_nil]
        omega
      | cons d p =>
        obtain ⟨rfl, htail⟩ := List.cons_eq_cons.mp hp
        rw [hcount]
        exact h.first p s htail

/-- a quote changes the parity of those met so far, and nothing else does -/
theorem inQuotes_next {q : Bool} {before : Nat} (hq : q = decide (before % 2 = 1)) (c : Char) :
    (if c = '\"' then !q else q) = decide ((before + if c = '\"' then 1 else 0) % 2 = 1) := by
  rw [hq]
  by_cases hc : c = '\"'
  · simp only [hc, if_true]
    by_cases hodd : before % 2 = 1
    · rw [decide_eq_true hodd, decide_eq_false (by omega)]
      rfl
    · rw [decide_eq_false hodd, decide_eq_true (by omega)]
      rfl
  · simp only [hc, if_false, Nat.add_zero]

/-- being in quotes is having met an odd number of them -/
theorem cutHead?_eq_some_iff {q : Bool} {before : Nat} (hq : q = decide (before % 2 = 1))
    {cs head rest : List Char} :
    cutHead? q cs = some (head, rest) ↔ head ++ '>' :: rest = cs ∧ EndsHead before head := by
  -- along the text; what carries it is that `q` is the parity of the quotes met so far
  induction cs generalizing q before head with
  | nil =>
    rw [cutHead?, List.append_eq_nil_iff]
    constructor
    · intro h
      cases h
    · rintro ⟨⟨-, h⟩, -⟩
      cases h
  | cons c cs ih =>
    have hclosed : q = false ↔ before % 2 = 0 := by
      rw [hq, decide_eq_false_iff_not]
      omega
    have hnext := inQuotes_next hq c
    rw [cutHead?]
    constructor
    · intro h
      split at h
      · rename_i hend
        cases h
        exact ⟨by rw [hend.1, List.nil_append], endsHead_nil (hclosed.mp hend.2)⟩
      · rename_i hgo
        obtain ⟨⟨head', rest'⟩, hr, heq⟩ := Option.map_eq_some_iff.mp h
        obtain ⟨rfl, rfl⟩ := Prod.mk.inj heq
        obtain ⟨happend, hends⟩ := (ih hnext).mp hr
        refine ⟨by rw [List.cons_append, happend], endsHead_cons.mpr ⟨?_, hends⟩⟩
        rintro ⟨hc, heven⟩
        exact hgo ⟨hc, hclosed.mpr heven⟩
    · rintro ⟨happend, hends⟩
      cases head with
      | nil =>
        obtain ⟨rfl, rfl⟩ := List.cons_eq_cons.mp happend
        have heven : before % 2 = 0 := hends.even
        rw [if_pos ⟨rfl, hclosed.mpr heven⟩]
      | cons d head =>
        obtain ⟨rfl, htail⟩ := List.cons_eq_cons.mp happend
        obtain ⟨hgo, hends'⟩ := endsHead_cons.mp hends
        have hgo' : ¬ (d = '>' ∧ q = false) := fun h => hgo ⟨h.1, hclosed.mp h.2⟩
        rw [if_neg hgo', (ih hnext).mpr ⟨htail, hends'⟩]
        rfl

/-! ## contents -/

/-- a content that a closing tag ends, in any case, with a text behind it; no shorter content would
do -/
structure EndsContent (close content closing rest : List Char) : Prop where
  closes : closing.map foldCase = close
  shortest : ∀ p w s, content ++ (closing ++ rest) = p ++ (w ++ s) → w.map foldCase = close →
    content.length ≤ p.length

theorem endsContent_nil {close closing rest : List Char} (h : closing.map foldCase = close) :
    EndsContent close [] closing rest := ⟨h, fun _ _ _ _ _ => Nat.zero_le _⟩

theorem endsContent_cons {close closing rest content : List Char} {c : Char} :
    EndsContent close (c :: content) closing rest ↔
      (∀ w s, c :: (content ++ (closing ++ rest)) = w ++ s → w.map foldCase ≠ close) ∧
        EndsContent close content closing rest := by
  constructor
  · intro h
    refine ⟨fun w s hw hfold => ?_, h.closes, fun p w s hp hfold => ?_⟩
    · have hle : (c :: content).length ≤ ([] : List Char).length := h.shortest [] w s hw hfold
      rw [List.length_cons, List.length_nil] at hle
      omega
    · have hle : (c :: content).length ≤ (c :: p).length :=
        h.shortest (c :: p) w s (by rw [List.cons_append, hp, List.cons_append]) hfold
      rw [List.length_cons, List.length_cons] at hle
      omega
  · rintro ⟨hnot, h⟩
    refine ⟨h.closes, fun p w s hp hfold => ?_⟩
    cases p with
    | nil => exact absurd hfold (hnot w s hp)
    | cons d p =>
      obtain ⟨rfl, htail⟩ := List.cons_eq_cons.mp hp
      rw [List.length_cons, List.length_cons]
      exact Nat.succ_le_succ (h.shortest p w s htail hfold)

theorem cutContent?_eq_some_iff {close : List Char} (hclose : close ≠ [])
    {cs content closing rest : List Char} :
    cutContent? close cs = some (content, closing, rest) ↔
      content ++ (closing ++ rest) = cs ∧ EndsContent close content closing rest := by
  -- along the text: a closing tag either starts here, or the content takes one more character
  induction cs generalizing content with
  | nil =>
    rw [cutContent?, List.append_eq_nil_iff, List.append_eq_nil_iff]
    constructor
    · intro h
      cases h
    · rintro ⟨⟨-, rfl, -⟩, hends⟩
      exact absurd hends.closes.symm hclose
  | cons c cs ih =>
    rw [cutContent?]
    constructor
    · intro h
      split at h
      · rename_i w s hw
        cases h
        obtain ⟨happend, hfold⟩ := dropFolded?_eq_some_iff.mp hw
        exact ⟨happend, endsContent_nil hfold⟩
      · rename_i hnone
        obtain ⟨⟨content', closing', rest'⟩, hr, heq⟩ := Option.map_eq_some_iff.mp h
        obtain ⟨rfl, htail⟩ := Prod.mk.inj heq
        obtain ⟨rfl, rfl⟩ := Prod.mk.inj htail
        obtain ⟨happend, hends⟩ := ih.mp hr
        refine ⟨by rw [List.cons_append, happend], endsContent_cons.mpr ⟨?_, hends⟩⟩
        intro w s hw hfold
        rw [happend] at hw
        have hsome : dropFolded? close (c :: cs) = some (w, s) :=
          dropFolded?_eq_some_iff.mpr ⟨hw.symm, hfold⟩
        rw [hnone] at hsome
        cases hsome
    · rintro ⟨happend, hends⟩
      cases content with
      | nil =>
        have hsome : dropFolded? close (c :: cs) = some (closing, rest) :=
          dropFolded?_eq_some_iff.mpr ⟨happend, hends.closes⟩
        rw [hsome]
      | cons d content =>
        obtain ⟨rfl, htail⟩ := List.cons_eq_cons.mp happend
        obtain ⟨hnot, hends'⟩ := endsContent_cons.mp hends
        have hnone : dropFolded? close (d :: cs) = none := by
          refine Option.eq_none_iff_forall_ne_some.mpr fun r hr => ?_
          obtain ⟨hwritten, hfold⟩ := dropFolded?_eq_some_iff.mp hr
          rw [← happend] at hwritten
          exact hnot r.1 r.2 hwritten.symm hfold
        rw [hnone, ih.mpr ⟨htail, hends'⟩]
        rfl

/-! ## tags -/

/-- a tag that stands in front of a text -/
structure Stands (t : Tag) (rest : List Char) : Prop where
  opening : t.opening.map foldCase = opener
  named : t.nameText ≠ []
  name : ∀ c ∈ t.nameText, isNameChar c = true
  /-- the name goes no further -/
  longest : ∀ c ∈ t.head.head?, isNameChar c = false
  head : EndsHead 0 t.head
  bare : endsTag t.head = true → t.content = [] ∧ t.closing = []
  filled : endsTag t.head = false → EndsContent (closer t.nameText) t.content t.closing rest

theorem closer_ne_nil (nameText : List Char) : closer nameText ≠ [] := by
  rw [closer, List.append_assoc]
  exact List.cons_ne_nil _ _

/-- a name that goes no further is all that the reader takes for it -/
theorem takeWhile_isNameChar {nameText head : List Char} (hname : ∀ c ∈ nameText, isNameChar c = true)
    (hlongest : ∀ c ∈ head.head?, isNameChar c = false) (rest : List Char) :
    (nameText ++ (head ++ '>' :: rest)).takeWhile isNameChar = nameText ∧
      (nameText ++ (head ++ '>' :: rest)).dropWhile isNameChar = head ++ '>' :: rest := by
  have hstop : (head ++ '>' :: rest).takeWhile isNameChar = [] ∧
      (head ++ '>' :: rest).dropWhile isNameChar = head ++ '>' :: rest := by
    cases head with
    | nil =>
      have hend : isNameChar '>' = false := by decide
      rw [List.nil_append, List.takeWhile_cons, List.dropWhile_cons, hend]
      exact ⟨rfl, rfl⟩
    | cons c head =>
      have hc : isNameChar c = false := hlongest c rfl
      rw [List.cons_append, List.takeWhile_cons, List.dropWhile_cons, hc]
      exact ⟨rfl, rfl⟩
  constructor
  · rw [List.takeWhile_append_of_pos hname, hstop.1, List.append_nil]
  · rw [List.dropWhile_append_of_pos hname, hstop.2]

/-- the head that follows a name does not start with a character of names -/
theorem longest_of_append {cs head rest : List Char}
    (h : head ++ '>' :: rest = cs.dropWhile isNameChar) : ∀ c ∈ head.head?, isNameChar c = false := by
  intro c hc
  have hhead : (cs.dropWhile isNameChar).head? = some c := by
    rw [← h, List.head?_append, hc, Option.some_or]
  have hnot := List.head?_dropWhile_not isNameChar cs
  rw [hhead] at hnot
  simpa using hnot

theorem read?_of_stands {t : Tag} {rest : List Char} (h : t.Stands rest) :
    read? (t.written ++ rest) = some (t, rest) := by
  obtain ⟨opening, nameText, head, content, closing⟩ := t
  have hopen : dropFolded? opener (opening ++ (nameText ++ (head ++ '>' :: (content ++ (closing ++ rest)))))
      = some (opening, nameText ++ (head ++ '>' :: (content ++ (closing ++ rest)))) :=
    dropFolded?_eq_some_iff.mpr ⟨rfl, h.opening⟩
  have hwritten : written ⟨opening, nameText, head, content, closing⟩ ++ rest =
      opening ++ (nameText ++ (head ++ '>' :: (content ++ (closing ++ rest)))) := by
    simp only [written, List.append_assoc, List.cons_append]
  obtain ⟨htake, hdrop⟩ := takeWhile_isNameChar h.name h.longest (content ++ (closing ++ rest))
  have hhead : cutHead? false (head ++ '>' :: (content ++ (closing ++ rest))) =
      some (head, content ++ (closing ++ rest)) :=
    (@cutHead?_eq_some_iff false 0 rfl _ _ _).mpr ⟨rfl, h.head⟩
  have hnamed : nameText.isEmpty = false := List.isEmpty_eq_false_iff.mpr h.named
  rw [hwritten, read?, hopen]
  simp only [Option.bind_eq_bind, Option.bind_some]
  rw [htake, hdrop, hnamed, hhead]
  simp only [Bool.false_eq_true, if_false, Option.bind_some]
  cases hends : endsTag head with
  | true =>
    obtain ⟨rfl, rfl⟩ : content = [] ∧ closing = [] := h.bare hends
    rfl
  | false =>
    have hcontent : cutContent? (closer nameText) (content ++ (closing ++ rest)) =
        some (content, closing, rest) :=
      (cutContent?_eq_some_iff (closer_ne_nil nameText)).mpr ⟨rfl, h.filled hends⟩
    rw [hcontent]
    rfl

theorem stands_of_read? {t : Tag} {cs rest : List Char} (h : read? cs = some (t, rest)) :
    t.Stands rest := by
  simp only [read?, Option.bind_eq_bind, Option.bind_eq_some_iff] at h
  obtain ⟨⟨opening, r⟩, hopen, h⟩ := h
  obtain ⟨-, hopening⟩ := dropFolded?_eq_some_iff.mp hopen
  dsimp only at h hopening
  split at h
  · cases h
  rename_i hnamed
  have hnamed' : r.takeWhile isNameChar ≠ [] := fun hnil => hnamed (List.isEmpty_iff.mpr hnil)
  simp only [Option.bind_eq_some_iff] at h
  obtain ⟨⟨head, r'⟩, hhead, h⟩ := h
  obtain ⟨happend, hends⟩ := (@cutHead?_eq_some_iff false 0 rfl _ _ _).mp hhead
  have hname : ∀ c ∈ r.takeWhile isNameChar, isNameChar c = true :=
    fun c hc => List.all_eq_true.mp List.all_takeWhile c hc
  dsimp only at h
  split at h
  · rename_i hbare
    simp only [Option.some.injEq, Prod.mk.injEq] at h
    obtain ⟨rfl, rfl⟩ := h
    exact ⟨hopening, hnamed', hname, longest_of_append happend, hends, fun _ => ⟨rfl, rfl⟩,
      fun hfilled => absurd (hbare.symm.trans hfilled) (by decide)⟩
  · rename_i hfilled
    simp only [Option.bind_eq_some_iff] at h
    obtain ⟨⟨content, closing, r''⟩, hcontent, h⟩ := h
    simp only [Option.some.injEq, Prod.mk.injEq] at h
    obtain ⟨rfl, rfl⟩ := h
    have hbody := ((cutContent?_eq_some_iff (closer_ne_nil _)).mp hcontent).2
    exact ⟨hopening, hnamed', hname, longest_of_append happend, hends,
      fun hbare => absurd hbare hfilled, fun _ => hbody⟩

/-- the reader finds a tag at the start of a text if, and only if, one stands there -/
theorem read?_eq_some_iff {t : Tag} {cs rest : List Char} :
    read? cs = some (t, rest) ↔ t.written ++ rest = cs ∧ t.Stands rest := by
  constructor
  · intro h
    exact ⟨written_append_of_read? h, stands_of_read? h⟩
  · rintro ⟨rfl, h⟩
    exact read?_of_stands h

end Tag

end Debate.Notepad
