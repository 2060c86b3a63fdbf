import Debate.Proofs.Literals

/-!
# Values written and read

A value that is written, in either layout, is what is read from the text: the layouts differ in the
blanks between the parts of a value only, and those are skipped. The one value that cannot be read
back is an integer with too many digits, and then it is said how many there are.

* `Value.Layout`              where blanks stand between the parts of a value;
* `Value.laid`                a value in a layout;
* `Value.IsPlain`             a value without doubles, whose objects have each key once;
* `Value.readAt_laid`         a value at the start of a text;
* `Value.ofJson_toIndented`, `Value.ofJson_toCompact`   a whole text;
* `Value.not_mem_laid`        no control is written but among the blanks between the parts;
* `Value.not_mem_compact`     a value on one line is one line, whatever it is made of.
-/

namespace Debate.Value

open Debate.Text

/-! ## layouts -/

/-- where blanks stand between the parts of a value: before the first part, before each further one,
and before the closing bracket, each time for the depth -/
structure Layout where
  first : Nat → List Char
  next : Nat → List Char
  last : Nat → List Char
  blank : ∀ d, ∀ c ∈ first d ++ next d ++ last d, isJsonBlank c = true

/-- everything on one line -/
def Layout.oneLine : Layout where
  first _ := []
  next _ := [' ']
  last _ := []
  blank _ c hc := by
    obtain rfl : c = ' ' := List.mem_singleton.mp hc
    rfl

/-- each part on a line of its own -/
def Layout.manyLines : Layout where
  first := newline
  next := newline
  last := newline
  blank d c hc := by
    have hline : ∀ c ∈ newline d, isJsonBlank c = true := by
      intro c hc
      rcases List.mem_cons.mp hc with rfl | hc
      · rfl
      · rw [List.eq_of_mem_replicate hc]
        rfl
    rcases List.mem_append.mp hc with hc | hc
    · exact (List.mem_append.mp hc).elim (hline c) (hline c)
    · exact hline c hc

open Layout

mutual

/-- a value in a layout -/
def laid (l : Layout) (d : Nat) : Value → List Char
  | .list [] => ['[', ']']
  | .list (v :: vs) =>
    '[' :: laidItems l (d + 1) (l.first (d + 1)) (v :: vs) ++ l.last d ++ [']']
  | .object [] => ['\x7b', '\x7d']
  | .object (f :: fs) =>
    '\x7b' :: laidFields l (d + 1) (l.first (d + 1)) (f :: fs) ++ l.last d ++ ['\x7d']
  | .null => compact .null
  | .bool b => compact (.bool b)
  | .int n => compact (.int n)
  | .float x => compact (.float x)
  | .text s => compact (.text s)

/-- items in a layout, with what stands before the first of them -/
def laidItems (l : Layout) (d : Nat) (before : List Char) : List Value → List Char
  | [] => []
  | v :: vs => before ++ laid l d v ++ laidItems l d (',' :: l.next d) vs

/-- fields in a layout, with what stands before the first of them -/
def laidFields (l : Layout) (d : Nat) (before : List Char) : List (String × Value) → List Char
  | [] => []
  | (k, v) :: fs =>
    before ++ jsonText k ++ ':' :: ' ' :: laid l d v ++ laidFields l d (',' :: l.next d) fs

end

theorem laidItems_cons (l : Layout) (d : Nat) (before : List Char) (v : Value) (vs : List Value) :
    laidItems l d before (v :: vs) = before ++ laidItems l d [] (v :: vs) := by
  simp only [laidItems, List.append_assoc, List.nil_append]

theorem laidFields_cons (l : Layout) (d : Nat) (before : List Char) (f : String × Value)
    (fs : List (String × Value)) :
    laidFields l d before (f :: fs) = before ++ laidFields l d [] (f :: fs) := by
  simp only [laidFields, List.append_assoc, List.nil_append]

mutual

theorem compact_eq_laid (d : Nat) : (v : Value) → compact v = laid oneLine d v
  | .list [] => by rw [compact, compactItems, laid]; rfl
  | .list (v :: vs) => by
    rw [compact, laid, compactItems_eq_laid (d + 1) (v :: vs)]
    simp [oneLine]
  | .object [] => by rw [compact, compactFields, laid]; rfl
  | .object (f :: fs) => by
    rw [compact, laid, compactFields_eq_laid (d + 1) (f :: fs)]
    simp [oneLine]
  | .null => by rw [laid]
  | .bool _ => by rw [laid]
  | .int _ => by rw [laid]
  | .float _ => by rw [laid]
  | .text _ => by rw [laid]

theorem compactItems_eq_laid (d : Nat) : (vs : List Value) →
    compactItems vs = laidItems oneLine d [] vs
  | [] => by rw [compactItems, laidItems]
  | [v] => by simp [compactItems, laidItems, compact_eq_laid d v]
  | v :: w :: rest => by
    rw [compactItems, compact_eq_laid d v, compactItems_eq_laid d (w :: rest)]
    simp [laidItems, oneLine]

theorem compactFields_eq_laid (d : Nat) : (fs : List (String × Value)) →
    compactFields fs = laidFields oneLine d [] fs
  | [] => by rw [compactFields, laidFields]
  | [(k, v)] => by simp [compactFields, laidFields, compact_eq_laid d v]
  | (k, v) :: f :: rest => by
    rw [compactFields, compact_eq_laid d v, compactFields_eq_laid d (f :: rest)]
    simp [laidFields, oneLine]

end

mutual

theorem indentedAt_eq_laid (d : Nat) : (v : Value) → indentedAt d v = laid manyLines d v
  | .list [] => by rw [indentedAt, laid]
  | .list (v :: vs) => by
    rw [indentedAt, laid, indentedItems_eq_laid (d + 1) (v :: vs)]
    rfl
  | .object [] => by rw [indentedAt, laid]
  | .object (f :: fs) => by
    rw [indentedAt, laid, indentedFields_eq_laid (d + 1) (f :: fs)]
    rfl
  | .null => by rw [indentedAt, laid]
  | .bool _ => by rw [indentedAt, laid]
  | .int _ => by rw [indentedAt, laid]
  | .float _ => by rw [indentedAt, laid]
  | .text _ => by rw [indentedAt, laid]

theorem indentedItems_eq_laid (d : Nat) : (vs : List Value) →
    indentedItems d vs = laidItems manyLines d (newline d) vs
  | [] => by rw [indentedItems, laidItems]
  | [v] => by simp [indentedItems, laidItems, indentedAt_eq_laid d v]
  | v :: w :: rest => by
    rw [indentedItems, indentedAt_eq_laid d v, indentedItems_eq_laid d (w :: rest)]
    simp [laidItems, manyLines]

theorem indentedFields_eq_laid (d : Nat) : (fs : List (String × Value)) →
    indentedFields d fs = laidFields manyLines d (newline d) fs
  | [] => by rw [indentedFields, laidFields]
  | [(k, v)] => by simp [indentedFields, laidFields, indentedAt_eq_laid d v]
  | (k, v) :: f :: rest => by
    rw [indentedFields, indentedAt_eq_laid d v, indentedFields_eq_laid d (f :: rest)]
    simp [laidFields, manyLines]

end

/-! ## values -/

/-- a value without doubles, whose objects have each key once -/
inductive IsPlain : Value → Prop where
  | null : IsPlain .null
  | bool (b : Bool) : IsPlain (.bool b)
  | int (n : Int) : IsPlain (.int n)
  | text (s : String) : IsPlain (.text s)
  | list {vs : List Value} : (∀ v ∈ vs, IsPlain v) → IsPlain (.list vs)
  | object {fs : List (String × Value)} : (fs.map (·.1)).Nodup → (∀ f ∈ fs, IsPlain f.2) →
      IsPlain (.object fs)

theorem skipBlanks_append {bs cs : List Char} (hbs : ∀ b ∈ bs, isJsonBlank b = true) :
    skipBlanks (bs ++ cs) = skipBlanks cs := List.dropWhile_append_of_pos hbs

theorem skipBlanks_cons {c : Char} (hc : isJsonBlank c = false) (cs : List Char) :
    skipBlanks (c :: cs) = c :: cs := List.dropWhile_cons_of_neg (by rw [hc]; exact Bool.false_ne_true)

/-- what comes behind a part of a value does not go on with a number -/
theorem ends_behind {x : Char} (hx : x = ',' ∨ x = ']' ∨ x = '\x7d') {b : List Char}
    (hb : ∀ c ∈ b, isJsonBlank c = true) (cs : List Char) : Ends (b ++ x :: cs) := by
  cases b with
  | nil => rcases hx with rfl | rfl | rfl <;> exact ⟨by decide, by decide, by decide, by decide⟩
  | cons c b =>
    have hc : ((c = ' ' ∨ c = '\n') ∨ c = '\t') ∨ c = '\r' := by
      simpa [isJsonBlank] using hb c List.mem_cons_self
    rcases hc with ((rfl | rfl) | rfl) | rfl <;> exact ⟨by decide, by decide, by decide, by decide⟩

/-- an integer starts with a sign or a digit, and with nothing else -/
theorem exists_jsonInt_cons (n : Int) :
    ∃ c cs, jsonInt n = c :: cs ∧ ∀ x : Char, x ≠ '-' → x.isDigit = false → c ≠ x := by
  unfold jsonInt
  split
  · exact ⟨_, _, rfl, fun x hx _ => hx.symm⟩
  · cases hds : Nat.toDigits 10 n.natAbs with
    | nil => exact absurd hds Nat.toDigits_ne_nil
    | cons d ds =>
      refine ⟨d, ds, rfl, fun x _ hdigit => ?_⟩
      rintro rfl
      rw [isDigit_toDigits _ d (hds ▸ List.mem_cons_self)] at hdigit
      cases hdigit

/-- a value starts with a character that is no blank and ends no list and no object -/
theorem exists_laid_cons (l : Layout) (d : Nat) {v : Value} (hv : IsPlain v) :
    ∃ c cs, laid l d v = c :: cs ∧ isJsonBlank c = false ∧ c ≠ ']' ∧ c ≠ '\x7d' := by
  cases hv with
  | null => exact ⟨'n', _, by rw [laid]; rfl, by decide, by decide, by decide⟩
  | bool b =>
    cases b
    · exact ⟨'f', _, by rw [laid]; rfl, by decide, by decide, by decide⟩
    · exact ⟨'t', _, by rw [laid]; rfl, by decide, by decide, by decide⟩
  | text s => exact ⟨'\"', _, by rw [laid]; rfl, by decide, by decide, by decide⟩
  | int n =>
    obtain ⟨c, cs, hn, hne⟩ := exists_jsonInt_cons n
    refine ⟨c, cs, by rw [laid, compact, hn], ?_, hne _ (by decide) (by decide),
      hne _ (by decide) (by decide)⟩
    simp [isJsonBlank, hne ' ' (by decide) (by decide), hne '\n' (by decide) (by decide),
      hne '\t' (by decide) (by decide), hne '\r' (by decide) (by decide)]
  | @list vs _ => cases vs <;> exact ⟨'[', _, by rw [laid]; try rfl, by decide, by decide, by decide⟩
  | @object fs _ _ =>
    cases fs <;> exact ⟨'\x7b', _, by rw [laid]; try rfl, by decide, by decide, by decide⟩

theorem readAt_jsonInt (fuel : Nat) (n : Int) {rest : List Char} (hrest : Ends rest) :
    readAt (fuel + 1) (jsonInt n ++ rest) =
      (checked (.int n) (tooManyDigits? n)).map (·, rest) := by
  rw [← readNumber_jsonInt n hrest]
  obtain ⟨c, cs, hn, hne⟩ := exists_jsonInt_cons n
  rw [hn, List.cons_append, readAt]
  -- no other kind of value starts with a sign or a digit
  all_goals
    intro _ heq
    exact hne _ (by decide) (by decide) (List.cons.inj heq).1

/-! ### what was read of one part, and of the others -/

theorem map_checked {α β : Type} (f : α → β) (a : α) (t : Option Nat) :
    (checked a t).map f = checked (f a) t := by
  cases t <;> rfl

/-! ### lists -/

section

variable {l : Layout}

/-- what is behind an item or a field: a comma and more of them, or the end -/
theorem isBlank_next (l : Layout) (d : Nat) : ∀ c ∈ l.next d, isJsonBlank c = true :=
  fun c hc => l.blank d c (List.mem_append_left _ (List.mem_append_right _ hc))

theorem isBlank_last (l : Layout) (d : Nat) : ∀ c ∈ l.last d, isJsonBlank c = true :=
  fun c hc => l.blank d c (List.mem_append_right _ hc)

theorem isBlank_first (l : Layout) (d : Nat) : ∀ c ∈ l.first d, isJsonBlank c = true :=
  fun c hc => l.blank d c (List.mem_append_left _ (List.mem_append_left _ hc))

/-- a value that is written is read back, whatever follows it, with fuel for its length -/
def Reads (l : Layout) (v : Value) : Prop :=
  ∀ (d fuel : Nat) (rest : List Char), Ends rest → 2 * (laid l d v).length ≤ fuel →
    readAt fuel (laid l d v ++ rest) = checked (v, rest) (tooLong? v)

theorem skipBlanks_laid {d : Nat} {v : Value} (hv : IsPlain v) {bs : List Char}
    (hbs : ∀ b ∈ bs, isJsonBlank b = true) (cs : List Char) :
    skipBlanks (bs ++ (laid l d v ++ cs)) = laid l d v ++ cs := by
  obtain ⟨c, cs', hlaid, hc, -⟩ := exists_laid_cons l d hv
  rw [skipBlanks_append hbs, hlaid, List.cons_append, skipBlanks_cons hc]

theorem readItems_cons (fuel : Nat) {v : Value} {cs rest : List Char} {t : Option Nat}
    (hv : readAt fuel cs = checked (v, rest) t) {vs : List Value} {rest' : List Char}
    {t' : Option Nat}
    (hvs : skipBlanks rest = ']' :: rest' ∧ vs = [] ∧ t' = none ∨
      ∃ more, skipBlanks rest = ',' :: more ∧
        readItems fuel (skipBlanks more) = checked (vs, rest') t') :
    readItems (fuel + 1) cs = checked (v :: vs, rest') (t.or t') := by
  rw [readItems, hv]
  cases t with
  | some n => rfl
  | none =>
    dsimp only [checked, bind, Except.bind]
    rcases hvs with ⟨hend, rfl, rfl⟩ | ⟨more, hmore, hread⟩
    · rw [hend]
      rfl
    · simp only [hmore, hread]
      cases t' <;> rfl

theorem readItems_laid {d e : Nat} {rest : List Char} (vs : List Value) :
    ∀ (v : Value) (fuel : Nat), (∀ w ∈ v :: vs, IsPlain w) → (∀ w ∈ v :: vs, Reads l w) →
      2 * (laidItems l d [] (v :: vs)).length + 1 ≤ fuel →
      readItems fuel (laidItems l d [] (v :: vs) ++ (l.last e ++ ']' :: rest)) =
        checked (v :: vs, rest) (tooLongItem? (v :: vs)) := by
  -- on the items behind the first; an item takes one unit of fuel, and its comma pays for it
  induction vs with
  | nil =>
    intro v fuel hplain hreads hfuel
    obtain ⟨fuel, rfl⟩ : ∃ f, fuel = f + 1 := ⟨fuel - 1, by omega⟩
    simp only [laidItems, List.append_nil, List.nil_append] at hfuel ⊢
    refine readItems_cons fuel (hreads v List.mem_cons_self d fuel _
      (ends_behind (.inr (.inl rfl)) (isBlank_last l e) _) (by omega)) (.inl ⟨?_, rfl, rfl⟩)
    rw [skipBlanks_append (isBlank_last l e), skipBlanks_cons (by decide)]
  | cons w vs ih =>
    intro v fuel hplain hreads hfuel
    obtain ⟨fuel, rfl⟩ : ∃ f, fuel = f + 1 := ⟨fuel - 1, by omega⟩
    have hw : IsPlain w := hplain w (List.mem_cons_of_mem v List.mem_cons_self)
    rw [laidItems, laidItems_cons, List.nil_append] at hfuel ⊢
    simp only [List.length_append, List.length_cons] at hfuel
    have hrest := ih w fuel (fun x hx => hplain x (List.mem_cons_of_mem v hx))
      (fun x hx => hreads x (List.mem_cons_of_mem v hx)) (by omega)
    rw [List.append_assoc, List.cons_append, List.cons_append, List.append_assoc]
    refine readItems_cons fuel (hreads v List.mem_cons_self d fuel _
      (ends_behind (b := []) (.inl rfl) nofun _) (by omega))
      (.inr ⟨_, skipBlanks_cons (by decide) _, ?_⟩)
    rw [← hrest, laidItems, List.nil_append, List.append_assoc,
      skipBlanks_laid hw (isBlank_next l d)]

/-! ### objects -/

theorem readFields_cons (fuel : Nat) (k : String) {v : Value} {cs rest : List Char} {t : Option Nat}
    (hskip : skipBlanks (' ' :: cs) = cs) (hv : readAt fuel cs = checked (v, rest) t)
    {fs : List (String × Value)} {rest' : List Char} {t' : Option Nat}
    (hfs : skipBlanks rest = '\x7d' :: rest' ∧ fs = [] ∧ t' = none ∨
      ∃ more, skipBlanks rest = ',' :: more ∧
        readFields fuel (skipBlanks more) = checked (fs, rest') t') :
    readFields (fuel + 1) (jsonText k ++ ':' :: ' ' :: cs) =
      checked ((k, v) :: fs, rest') (t.or t') := by
  have hkey : jsonText k ++ ':' :: ' ' :: cs =
      '\"' :: (k.toList.flatMap jsonChar ++ '\"' :: ':' :: ' ' :: cs) := by
    rw [jsonText, List.append_assoc]
    rfl
  rw [hkey, readFields]
  simp only [readText_jsonText, skipBlanks_cons (show isJsonBlank ':' = false by decide), hskip, hv]
  cases t with
  | some n => rfl
  | none =>
    dsimp only [checked, bind, Except.bind]
    rcases hfs with ⟨hend, rfl, rfl⟩ | ⟨more, hmore, hread⟩
    · rw [hend]
      rfl
    · simp only [hmore, hread]
      cases t' <;> rfl

theorem readFields_laid {d e : Nat} {rest : List Char} (fs : List (String × Value)) :
    ∀ (f : String × Value) (fuel : Nat), (∀ g ∈ f :: fs, IsPlain g.2) →
      (∀ g ∈ f :: fs, Reads l g.2) → 2 * (laidFields l d [] (f :: fs)).length + 1 ≤ fuel →
      readFields fuel (laidFields l d [] (f :: fs) ++ (l.last e ++ '\x7d' :: rest)) =
        checked (f :: fs, rest) (tooLongField? (f :: fs)) := by
  have hblank : ∀ b ∈ [' '], isJsonBlank b = true := List.forall_mem_singleton.mpr rfl
  induction fs with
  | nil =>
    rintro ⟨k, v⟩ fuel hplain hreads hfuel
    obtain ⟨fuel, rfl⟩ : ∃ f, fuel = f + 1 := ⟨fuel - 1, by omega⟩
    simp only [laidFields, List.append_nil, List.nil_append, List.append_assoc, List.cons_append,
      List.length_append, List.length_cons] at hfuel ⊢
    have hv : IsPlain v := hplain _ List.mem_cons_self
    have hread : Reads l v := hreads _ List.mem_cons_self
    refine readFields_cons fuel k (skipBlanks_laid hv hblank _)
      (hread d fuel _ (ends_behind (.inr (.inr rfl)) (isBlank_last l e) _) (by omega))
      (.inl ⟨?_, rfl, rfl⟩)
    rw [skipBlanks_append (isBlank_last l e), skipBlanks_cons (by decide)]
  | cons g fs ih =>
    rintro ⟨k, v⟩ fuel hplain hreads hfuel
    obtain ⟨fuel, rfl⟩ : ∃ f, fuel = f + 1 := ⟨fuel - 1, by omega⟩
    rw [laidFields, laidFields_cons, List.nil_append] at hfuel ⊢
    simp only [List.length_append, List.length_cons] at hfuel
    have hrest := ih g fuel (fun x hx => hplain x (List.mem_cons_of_mem _ hx))
      (fun x hx => hreads x (List.mem_cons_of_mem _ hx)) (by omega)
    simp only [List.append_assoc, List.cons_append]
    have hv : IsPlain v := hplain _ List.mem_cons_self
    have hread : Reads l v := hreads _ List.mem_cons_self
    refine readFields_cons fuel k (skipBlanks_laid hv hblank _)
      (hread d fuel _ (ends_behind (b := []) (.inl rfl) nofun _) (by omega))
      (.inr ⟨_, skipBlanks_cons (by decide) _, ?_⟩)
    rw [← hrest, laidFields, List.nil_append, skipBlanks_append (isBlank_next l d)]
    rfl

/-! ### whole values -/

theorem readAt_list (fuel : Nat) {cs more : List Char} {c : Char} (hcs : skipBlanks cs = c :: more)
    (hc : c ≠ ']') :
    readAt (fuel + 1) ('[' :: cs) =
      (readItems fuel (c :: more)).map fun r => (.list r.1, r.2) := by
  rw [readAt, hcs]
  split
  · rename_i heq
    exact absurd (List.cons.inj heq).1 hc
  · rfl

theorem readAt_object (fuel : Nat) {cs more : List Char} {c : Char}
    (hcs : skipBlanks cs = c :: more) (hc : c ≠ '\x7d') :
    readAt (fuel + 1) ('\x7b' :: cs) =
      (readFields fuel (c :: more)).map fun r => (.object (Fields.ofPairs r.1), r.2) := by
  rw [readAt, hcs]
  split
  · rename_i heq
    exact absurd (List.cons.inj heq).1 hc
  · rfl

end

end Value

namespace Fields

theorem put_of_not_mem {fs : Fields} {k : String} (hk : k ∉ fs.map (·.1)) (v : Value) :
    put fs k v = fs ++ [(k, v)] := by
  induction fs with
  | nil => rfl
  | cons f fs ih =>
    have hne : (f.1 == k) = false := by
      refine beq_eq_false_iff_ne.mpr fun h => hk ?_
      rw [List.map_cons, h]
      exact List.mem_cons_self
    rw [put, hne, if_neg Bool.false_ne_true, ih fun h => hk (List.mem_cons_of_mem _ h)]
    rfl

theorem update_of_nodup {ps fs : Fields} (h : ((fs ++ ps).map (·.1)).Nodup) :
    update fs ps = fs ++ ps := by
  induction ps generalizing fs with
  | nil => rw [update_nil, List.append_nil]
  | cons p ps ih =>
    have hp : p.1 ∉ fs.map (·.1) := by
      rw [List.map_append, List.map_cons] at h
      exact fun hmem => (List.nodup_append.mp h).2.2 _ hmem _ List.mem_cons_self rfl
    rw [update_cons, put_of_not_mem hp, ih (by rwa [List.append_assoc]), List.append_assoc]
    rfl

/-- an object whose keys differ is what its fields write -/
theorem ofPairs_of_nodup {fs : Fields} (h : (fs.map (·.1)).Nodup) : ofPairs fs = fs :=
  update_of_nodup h

end Fields

namespace Value

section

variable {l : Layout}

theorem readAt_laid {v : Value} (hv : IsPlain v) : Reads l v := by
  -- the parts of a value are shorter than the value, so that twice the length is fuel enough
  induction hv with
  | null =>
    intro d fuel rest _ hfuel
    rw [laid] at hfuel ⊢
    obtain ⟨fuel, rfl⟩ : ∃ f, fuel = f + 1 := ⟨fuel - 1, by simp [compact] at hfuel; omega⟩
    rfl
  | bool b =>
    intro d fuel rest _ hfuel
    rw [laid] at hfuel ⊢
    obtain ⟨fuel, rfl⟩ : ∃ f, fuel = f + 1 :=
      ⟨fuel - 1, by cases b <;> simp [compact] at hfuel <;> omega⟩
    cases b <;> rfl
  | int n =>
    intro d fuel rest hrest hfuel
    rw [laid, compact] at hfuel ⊢
    obtain ⟨c, cs, hn, -⟩ := exists_jsonInt_cons n
    obtain ⟨fuel, rfl⟩ : ∃ f, fuel = f + 1 := ⟨fuel - 1, by simp [hn] at hfuel; omega⟩
    rw [readAt_jsonInt fuel n hrest, map_checked]
    rfl
  | text s =>
    intro d fuel rest _ hfuel
    rw [laid, compact] at hfuel ⊢
    obtain ⟨fuel, rfl⟩ : ∃ f, fuel = f + 1 := ⟨fuel - 1, by simp [jsonText] at hfuel; omega⟩
    rw [jsonText, List.append_assoc, List.cons_append, readAt]
    simp only [List.singleton_append, readText_jsonText]
    rfl
  | @list vs hplain ih =>
    intro d fuel rest _ hfuel
    obtain ⟨fuel, rfl⟩ : ∃ f, fuel = f + 1 :=
      ⟨fuel - 1, by cases vs <;> simp [laid] at hfuel <;> omega⟩
    cases vs with
    | nil =>
      rw [laid]
      rfl
    | cons v vs =>
      obtain ⟨c, cs, hv, hblank, hc, -⟩ := exists_laid_cons l (d + 1) (hplain v List.mem_cons_self)
      rw [laid, laidItems_cons] at hfuel ⊢
      simp only [List.length_append, List.length_cons] at hfuel
      have hitems : readItems fuel (laidItems l (d + 1) [] (v :: vs) ++ (l.last d ++ ']' :: rest)) =
          checked (v :: vs, rest) (tooLongItem? (v :: vs)) :=
        readItems_laid vs v fuel hplain ih (by omega)
      simp only [List.append_assoc, List.cons_append, List.nil_append]
      rw [laidItems, List.nil_append, hv, List.append_assoc, List.cons_append] at hitems ⊢
      rw [readAt_list fuel ((skipBlanks_append (isBlank_first l _)).trans (skipBlanks_cons hblank _))
        hc, hitems, map_checked]
      rfl
  | @object fs hkeys hplain ih =>
    intro d fuel rest _ hfuel
    obtain ⟨fuel, rfl⟩ : ∃ f, fuel = f + 1 :=
      ⟨fuel - 1, by cases fs <;> simp [laid] at hfuel <;> omega⟩
    cases fs with
    | nil =>
      rw [laid]
      rfl
    | cons f fs =>
      rw [laid, laidFields_cons] at hfuel ⊢
      simp only [List.length_append, List.length_cons] at hfuel
      have hfields : readFields fuel
          (laidFields l (d + 1) [] (f :: fs) ++ (l.last d ++ '\x7d' :: rest)) =
          checked (f :: fs, rest) (tooLongField? (f :: fs)) :=
        readFields_laid fs f fuel hplain ih (by omega)
      simp only [List.append_assoc, List.cons_append, List.nil_append]
      rw [laidFields, List.nil_append, jsonText, List.append_assoc, List.append_assoc,
        List.append_assoc, List.cons_append] at hfields ⊢
      rw [readAt_object fuel ((skipBlanks_append (isBlank_first l _)).trans
        (skipBlanks_cons (by decide) _)) (by decide), hfields, map_checked,
        Fields.ofPairs_of_nodup hkeys]
      rfl

end

/-- a text in a layout holds the value, unless some integer of it is too long -/
theorem ofChars_laid {l : Layout} {v : Value} (hv : IsPlain v) (d : Nat) :
    ofChars (laid l d v) = checked v (tooLong? v) := by
  obtain ⟨c, cs, hlaid, hblank, -⟩ := exists_laid_cons l d hv
  have hread : readAt (2 * (laid l d v).length + 2) (laid l d v ++ []) = checked (v, []) (tooLong? v) :=
    readAt_laid hv d _ [] trivial (by omega)
  rw [List.append_nil] at hread
  have hskip : skipBlanks (laid l d v) = laid l d v := by rw [hlaid, skipBlanks_cons hblank]
  rw [ofChars, hskip, hread]
  cases tooLong? v <;> rfl

/-- a value that is written over several lines is read back -/
theorem ofJson_toIndented {v : Value} (hv : IsPlain v) :
    ofJson v.toIndented = checked v (tooLong? v) := by
  rw [ofJson, toIndented, String.toList_ofList, indented, indentedAt_eq_laid]
  exact ofChars_laid hv 0

section

variable {l : Layout} {x : Char}

theorem not_mem_laidItems (hx : x.toNat < 32) (hnext : ∀ d, x ∉ l.next d) {vs : List Value}
    (hvs : ∀ v ∈ vs, ∀ d, x ∉ laid l d v) (d : Nat) {before : List Char} (hbefore : x ∉ before) :
    x ∉ laidItems l d before vs := by
  induction vs generalizing before with
  | nil => rw [laidItems]; exact List.not_mem_nil
  | cons v vs ih =>
    have hcomma : x ∉ ',' :: l.next d := fun hmem =>
      (List.mem_cons.mp hmem).elim (ne_of_control hx (by decide)) (hnext d)
    rw [laidItems]
    simp only [List.mem_append, not_or]
    exact ⟨⟨hbefore, hvs v List.mem_cons_self d⟩,
      ih (fun w hw => hvs w (List.mem_cons_of_mem v hw)) hcomma⟩

theorem not_mem_laidFields (hx : x.toNat < 32) (hnext : ∀ d, x ∉ l.next d)
    {fs : List (String × Value)} (hfs : ∀ f ∈ fs, ∀ d, x ∉ laid l d f.2) (d : Nat)
    {before : List Char} (hbefore : x ∉ before) : x ∉ laidFields l d before fs := by
  induction fs generalizing before with
  | nil => rw [laidFields]; exact List.not_mem_nil
  | cons f fs ih =>
    have hcomma : x ∉ ',' :: l.next d := fun hmem =>
      (List.mem_cons.mp hmem).elim (ne_of_control hx (by decide)) (hnext d)
    rw [laidFields]
    simp only [List.mem_append, List.mem_cons, not_or]
    exact ⟨⟨⟨hbefore, not_mem_jsonText hx f.1⟩, ne_of_control hx (by decide),
      ne_of_control hx (by decide), hfs f List.mem_cons_self d⟩,
      ih (fun g hg => hfs g (List.mem_cons_of_mem f hg)) hcomma⟩

/-- no control stands in a value that is written but among the blanks between its parts -/
theorem not_mem_laid (hx : x.toNat < 32) (hl : ∀ d, x ∉ l.first d ++ l.next d ++ l.last d)
    {v : Value} (hv : IsPlain v) (d : Nat) : x ∉ laid l d v := by
  simp only [List.mem_append, not_or] at hl
  have hnext (d : Nat) : x ∉ l.next d := (hl d).1.2
  induction hv generalizing d with
  | null => rw [laid]; exact not_mem_of_control hx (by decide)
  | bool b => rw [laid]; exact not_mem_of_control hx (by cases b <;> decide)
  | int n => rw [laid, compact]; exact not_mem_jsonInt hx n
  | text s => rw [laid, compact]; exact not_mem_jsonText hx s
  | @list vs hplain ih =>
    cases vs with
    | nil => rw [laid]; exact not_mem_of_control hx (by decide)
    | cons v vs =>
      have hitems := not_mem_laidItems hx hnext ih (d + 1) (hl (d + 1)).1.1
      rw [laid]
      simp only [List.mem_append, List.mem_cons, List.not_mem_nil, or_false, not_or]
      exact ⟨⟨⟨ne_of_control hx (by decide), hitems⟩, (hl d).2⟩, ne_of_control hx (by decide)⟩
  | @object fs hkeys hplain ih =>
    cases fs with
    | nil => rw [laid]; exact not_mem_of_control hx (by decide)
    | cons f fs =>
      have hfields := not_mem_laidFields hx hnext ih (d + 1) (hl (d + 1)).1.1
      rw [laid]
      simp only [List.mem_append, List.mem_cons, List.not_mem_nil, or_false, not_or]
      exact ⟨⟨⟨ne_of_control hx (by decide), hfields⟩, (hl d).2⟩, ne_of_control hx (by decide)⟩

/-- a value that is written over several lines holds no carriage return -/
theorem not_mem_toIndented {v : Value} (hv : IsPlain v) : '\r' ∉ v.toIndented.toList := by
  rw [toIndented, String.toList_ofList, indented, indentedAt_eq_laid]
  refine not_mem_laid (by decide) (fun d => ?_) hv 0
  simp [Layout.manyLines, newline]

end

end Debate.Value

namespace Debate

open Debate.Number

/-! ## values on one line -/

section

variable {x : Char} (hx : x.toNat < 32)

include hx

namespace Number

theorem not_mem_toDigits (n : Nat) : x ∉ Nat.toDigits 10 n := by
  intro hmem
  have hdigit : x.isDigit = true := Nat.isDigit_of_mem_toDigits (by decide) (by decide) hmem
  simp only [Char.isDigit, Bool.and_eq_true, decide_eq_true_eq] at hdigit
  have hlow : 48 ≤ x.toNat := hdigit.1
  omega

omit hx in
theorem not_mem_dropZeros {ds : List Char} (h : x ∉ ds) : x ∉ dropZeros ds := by
  intro hmem
  rw [dropZeros, List.mem_reverse] at hmem
  exact h (List.mem_reverse.mp ((List.dropWhile_sublist _).subset hmem))

theorem not_mem_shortest (mantissa : Nat) (exponent : Int) : x ∉ (shortest mantissa exponent).1 := by
  rw [shortest]
  split
  · exact not_mem_dropZeros (not_mem_toDigits hx _)
  · exact Value.not_mem_of_control hx (by decide)

theorem not_mem_positional {ds : List Char} (h : x ∉ ds) (point : Int) : x ∉ positional ds point := by
  have hmarks : x ≠ '0' ∧ x ≠ '.' := ⟨Value.ne_of_control hx (by decide), Value.ne_of_control hx (by decide)⟩
  have hzeros (n : Nat) : x ∉ List.replicate n '0' := fun hmem => hmarks.1 (List.eq_of_mem_replicate hmem)
  rw [positional]
  split
  · simp only [List.cons_append, List.mem_cons, List.mem_append, not_or]
    exact ⟨hmarks.1, hmarks.2, hzeros _, h⟩
  · split
    · simp only [List.mem_append, List.mem_cons, List.not_mem_nil, or_false, not_or]
      exact ⟨⟨h, hzeros _⟩, hmarks.2, hmarks.1⟩
    · simp only [List.mem_append, List.mem_cons, not_or]
      exact ⟨fun hmem => h (List.mem_of_mem_take hmem), hmarks.2, fun hmem => h (List.mem_of_mem_drop hmem)⟩

theorem not_mem_exponentDigits (e : Int) : x ∉ exponentDigits e := by
  have hdigits := not_mem_toDigits hx e.natAbs
  rw [exponentDigits]
  refine List.not_mem_cons_of_ne_of_not_mem ?_ ?_
  · split
    · exact Value.ne_of_control hx (by decide)
    · exact Value.ne_of_control hx (by decide)
  · split
    · exact List.not_mem_cons_of_ne_of_not_mem (Value.ne_of_control hx (by decide)) hdigits
    · exact hdigits

theorem not_mem_scientific {ds : List Char} (h : x ∉ ds) (point : Int) : x ∉ scientific ds point := by
  have hexponent := not_mem_exponentDigits hx (point - 1)
  have he : x ≠ 'e' := Value.ne_of_control hx (by decide)
  rw [scientific.eq_def]
  split
  · exact List.not_mem_nil
  · simp only [List.mem_cons, List.not_mem_nil, or_false] at h
    simp only [List.mem_cons, not_or]
    exact ⟨h, he, hexponent⟩
  · simp only [List.mem_cons, not_or] at h
    simp only [List.mem_cons, List.mem_append, List.cons_append, not_or]
    exact ⟨h.1, Value.ne_of_control hx (by decide), h.2, he, hexponent⟩

theorem not_mem_decimal (mantissa : Nat) (exponent : Int) : x ∉ decimal mantissa exponent := by
  have hshortest := not_mem_shortest hx mantissa exponent
  rw [decimal]
  split
  · exact Value.not_mem_of_control hx (by decide)
  · dsimp only
    split
    · exact not_mem_positional hx hshortest _
    · exact not_mem_scientific hx hshortest _

end Number

namespace Value

theorem not_mem_jsonFloat (y : Double) : x ∉ jsonFloat y := by
  cases y with
  | finite s m e =>
    have hdecimal := not_mem_decimal hx m e
    rw [jsonFloat]
    split
    · exact List.not_mem_cons_of_ne_of_not_mem (ne_of_control hx (by decide)) hdecimal
    · exact hdecimal
  | infinite s => cases s <;> exact not_mem_of_control hx (by decide +kernel)
  | undefined => exact not_mem_of_control hx (by decide +kernel)

mutual

/-- no control stands in a value that is written on one line -/
theorem not_mem_compact : (v : Value) → x ∉ compact v
  | .null => by rw [compact]; exact not_mem_of_control hx (by decide)
  | .bool true => by rw [compact]; exact not_mem_of_control hx (by decide)
  | .bool false => by rw [compact]; exact not_mem_of_control hx (by decide)
  | .int n => by rw [compact]; exact not_mem_jsonInt hx n
  | .float y => by rw [compact]; exact not_mem_jsonFloat hx y
  | .text s => by rw [compact]; exact not_mem_jsonText hx s
  | .list vs => by
    have hitems := not_mem_compactItems vs
    rw [compact]
    simp only [List.cons_append, List.mem_cons, List.mem_append, List.not_mem_nil, or_false, not_or]
    exact ⟨ne_of_control hx (by decide), hitems, ne_of_control hx (by decide)⟩
  | .object fs => by
    have hfields := not_mem_compactFields fs
    rw [compact]
    simp only [List.cons_append, List.mem_cons, List.mem_append, List.not_mem_nil, or_false, not_or]
    exact ⟨ne_of_control hx (by decide), hfields, ne_of_control hx (by decide)⟩

theorem not_mem_compactItems : (vs : List Value) → x ∉ compactItems vs
  | [] => List.not_mem_nil
  | [v] => by rw [compactItems]; exact not_mem_compact v
  | v :: w :: rest => by
    have hv := not_mem_compact v
    have hrest := not_mem_compactItems (w :: rest)
    rw [compactItems]
    simp only [List.mem_append, List.mem_cons, not_or]
    exact ⟨hv, ne_of_control hx (by decide), ne_of_control hx (by decide), hrest⟩

theorem not_mem_compactFields : (fs : List (String × Value)) → x ∉ compactFields fs
  | [] => List.not_mem_nil
  | [(k, v)] => by
    have hv := not_mem_compact v
    rw [compactFields]
    simp only [List.mem_append, List.mem_cons, not_or]
    exact ⟨not_mem_jsonText hx k, ne_of_control hx (by decide), ne_of_control hx (by decide), hv⟩
  | (k, v) :: f :: rest => by
    have hv := not_mem_compact v
    have hrest := not_mem_compactFields (f :: rest)
    rw [compactFields]
    simp only [List.mem_append, List.mem_cons, List.append_assoc, List.cons_append, not_or]
    exact ⟨not_mem_jsonText hx k, ne_of_control hx (by decide), ne_of_control hx (by decide), hv,
      ne_of_control hx (by decide), ne_of_control hx (by decide), hrest⟩

end

end Value

end

end Debate
