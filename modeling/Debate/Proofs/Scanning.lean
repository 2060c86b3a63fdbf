import Debate.Proofs.Grammar

/-!
# Tags found from left to right

The pieces of a text are its tags, found from left to right, and the characters between them. Each
tag starts at the first place, behind the one before, where any tag stands; so none is missed, none
overlaps another, and the tags and the gaps between them are the text.

* `Span`                a tag and where it starts and stops in a text;
* `spans`               the spans of the tags among the pieces of a text;
* `IsConstruct`         a span at which a tag stands;
* `FoundFrom`           the constructs that are found from a place on;
* `gaps`, `weave`       the texts around spans, and such texts with others between them;
* `spans_exact`         the spans of a text are the constructs found from its start, and with the
                        gaps, which are the plain text, they make up the text.
-/

namespace Debate.Notepad

/-! ## spans -/

/-- a tag, the place where it starts and the place behind it -/
structure Span where
  start : Nat
  tag : Tag
  stop : Nat
  deriving DecidableEq, Repr

/-- the spans of the tags among pieces, of which the first starts at a place -/
def spansFrom (i : Nat) : List Piece → List Span
  | [] => []
  | .plain _ :: ps => spansFrom (i + 1) ps
  | .tag t :: ps => ⟨i, t, i + t.written.length⟩ :: spansFrom (i + t.written.length) ps

/-- the spans of the tags of a text -/
def spans (cs : List Char) : List Span := spansFrom 0 (pieces cs)

theorem map_tag_spansFrom (i : Nat) (ps : List Piece) :
    (spansFrom i ps).map (·.tag) = ps.filterMap Piece.tag? := by
  induction ps generalizing i with
  | nil => rfl
  | cons p ps ih =>
    cases p with
    | plain c => exact ih (i + 1)
    | tag t => exact congrArg (t :: ·) (ih _)

theorem pieces_of_read? {c : Char} {cs : List Char} {r : Tag × List Char}
    (h : Tag.read? (c :: cs) = some r) : pieces (c :: cs) = .tag r.1 :: pieces r.2 := by
  rw [pieces]
  split
  · rename_i r' hr'
    rw [h] at hr'
    rw [Option.some.inj hr']
  · rename_i hnone
    rw [h] at hnone
    cases hnone

theorem pieces_of_none {c : Char} {cs : List Char} (h : Tag.read? (c :: cs) = none) :
    pieces (c :: cs) = .plain c :: pieces cs := by
  rw [pieces]
  split
  · rename_i r hr
    rw [h] at hr
    cases hr
  · rfl

/-! ## constructs -/

/-- a span at which a tag stands in a text -/
structure IsConstruct (cs : List Char) (x : Span) : Prop where
  stop : x.stop = x.start + x.tag.written.length
  written : x.tag.written ++ cs.drop x.stop = cs.drop x.start
  stands : x.tag.Stands (cs.drop x.stop)

theorem Tag.length_written_pos (t : Tag) : 0 < t.written.length := by
  simp only [Tag.written, List.length_append, List.length_cons]
  omega

section

variable {cs : List Char}

theorem IsConstruct.read? {x : Span} (h : IsConstruct cs x) :
    Tag.read? (cs.drop x.start) = some (x.tag, cs.drop x.stop) :=
  Tag.read?_eq_some_iff.mpr ⟨h.written, h.stands⟩

theorem isConstruct_of_read? {i : Nat} {t : Tag} {rest : List Char}
    (h : Tag.read? (cs.drop i) = some (t, rest)) :
    IsConstruct cs ⟨i, t, i + t.written.length⟩ ∧ rest = cs.drop (i + t.written.length) := by
  obtain ⟨hwritten, hstands⟩ := Tag.read?_eq_some_iff.mp h
  have hrest : rest = cs.drop (i + t.written.length) := by
    rw [← List.drop_drop, ← hwritten, List.drop_left]
  exact ⟨⟨rfl, hrest ▸ hwritten, hrest ▸ hstands⟩, hrest⟩

theorem IsConstruct.bounds {x : Span} (h : IsConstruct cs x) :
    x.start < x.stop ∧ x.stop ≤ cs.length := by
  have hpos := x.tag.length_written_pos
  have hlength := congrArg List.length h.written
  have hstop := h.stop
  rw [List.length_append, List.length_drop, List.length_drop] at hlength
  omega

/-- what stands at a place is one tag -/
theorem IsConstruct.eq_of_start {x y : Span} (hx : IsConstruct cs x) (hy : IsConstruct cs y)
    (h : x.start = y.start) : x = y := by
  have hread := hx.read?
  rw [h, hy.read?] at hread
  have htag : y.tag = x.tag := (Prod.mk.inj (Option.some.inj hread)).1
  obtain ⟨start, tag, stop⟩ := x
  obtain ⟨start', tag', stop'⟩ := y
  obtain rfl : start = start' := h
  obtain rfl : tag' = tag := htag
  obtain rfl : stop = start + tag'.written.length := hx.stop
  obtain rfl : stop' = start + tag'.written.length := hy.stop
  rfl

end

/-! ## from left to right -/

/-- the constructs of a text that are found from a place on: each is the first one that starts behind
the one before -/
inductive FoundFrom (cs : List Char) : Nat → List Span → Prop where
  | done {i : Nat} (hnone : ∀ y, IsConstruct cs y → y.start < i) : FoundFrom cs i []
  | next {i : Nat} {x : Span} {xs : List Span} (hx : IsConstruct cs x) (hi : i ≤ x.start)
      (hfirst : ∀ y, IsConstruct cs y → i ≤ y.start → x.start ≤ y.start)
      (h : FoundFrom cs x.stop xs) : FoundFrom cs i (x :: xs)

namespace FoundFrom

variable {cs : List Char} {i : Nat} {xs : List Span}

theorem unique {ys : List Span} (h : FoundFrom cs i xs) (h' : FoundFrom cs i ys) : xs = ys := by
  induction h generalizing ys with
  | done hnone =>
    cases h' with
    | done => rfl
    | next hy hi => exact absurd (hnone _ hy) (by omega)
  | next hx hi hfirst _ ih =>
    cases h' with
    | done hnone => exact absurd (hnone _ hx) (by omega)
    | next hy hi' hfirst' h' =>
      have hle := hfirst _ hy hi'
      have hge := hfirst' _ hx hi
      obtain rfl := hx.eq_of_start hy (by omega)
      rw [ih h']

/-- a place where no tag stands is passed over -/
theorem skip (hnone : ∀ y, IsConstruct cs y → y.start ≠ i) (h : FoundFrom cs (i + 1) xs) :
    FoundFrom cs i xs := by
  cases h with
  | done hlater =>
    refine .done fun y hy => ?_
    have hlt := hlater y hy
    have hne := hnone y hy
    omega
  | next hx hi hfirst h =>
    refine .next hx (by omega) (fun y hy hle => ?_) h
    have hne := hnone y hy
    exact hfirst y hy (by omega)

theorem bounds (h : FoundFrom cs i xs) :
    ∀ x ∈ xs, i ≤ x.start ∧ x.start < x.stop ∧ x.stop ≤ cs.length := by
  induction h with
  | done => nofun
  | next hx hi _ _ ih =>
    intro y hy
    obtain ⟨hlt, hle⟩ := hx.bounds
    rcases List.mem_cons.mp hy with rfl | hy
    · exact ⟨hi, hlt, hle⟩
    · obtain ⟨hstart, hstop⟩ := ih y hy
      exact ⟨by omega, hstop⟩

end FoundFrom

/-- the pieces of a text from a place on hold the constructs that are found from there -/
theorem foundFrom_spansFrom (cs : List Char) {ds : List Char} {i : Nat} (h : ds = cs.drop i) :
    FoundFrom cs i (spansFrom i (pieces ds)) := by
  induction ds using pieces.induct generalizing i with
  | case1 =>
    rw [pieces]
    refine .done fun y hy => ?_
    have hlength := congrArg List.length h
    have hbounds := hy.bounds
    rw [List.length_nil, List.length_drop] at hlength
    omega
  | case2 c ds r hread ih =>
    rw [pieces_of_read? hread]
    obtain ⟨hx, hrest⟩ := isConstruct_of_read? (h ▸ hread)
    exact .next hx (Nat.le_refl i) (fun _ _ hle => hle) (ih hrest)
  | case3 c ds hread ih =>
    rw [pieces_of_none hread]
    have htail : ds = cs.drop (i + 1) := by
      rw [← List.drop_drop, ← h, List.drop_one, List.tail_cons]
    refine .skip (fun y hy hstart => ?_) (ih htail)
    -- a tag that stands here would have been read
    have hsome := hy.read?
    rw [hstart, ← h, hread] at hsome
    cases hsome

/-! ## gaps -/

/-- the texts in front of, between and behind spans, from a place on -/
def gaps (cs : List Char) (i : Nat) : List Span → List (List Char)
  | [] => [cs.drop i]
  | x :: xs => (cs.take x.start).drop i :: gaps cs x.stop xs

/-- texts, with others put between them in order -/
def weave : List (List Char) → List (List Char) → List Char
  | [], ws => ws.flatten
  | g :: gs, [] => g ++ gs.flatten
  | g :: gs, w :: ws => g ++ (w ++ weave gs ws)

/-- constructs with the gaps around them are the text -/
theorem FoundFrom.weave_gaps {cs : List Char} {i : Nat} {xs : List Span} (h : FoundFrom cs i xs) :
    weave (gaps cs i xs) (xs.map (·.tag.written)) = cs.drop i := by
  induction h with
  | done => rw [gaps, List.map_nil, weave, List.flatten_nil, List.append_nil]
  | @next i x xs hx hi _ _ ih =>
    have hgap : (cs.take x.start).drop i ++ cs.drop x.start = cs.drop i := by
      have hsplit : cs.take x.start ++ cs.drop x.start = cs := List.take_append_drop _ _
      have hle : i ≤ (cs.take x.start).length := by
        have hbounds := hx.bounds
        rw [List.length_take]
        omega
      calc (cs.take x.start).drop i ++ cs.drop x.start
          = (cs.take x.start ++ cs.drop x.start).drop i := (List.drop_append_of_le_length hle).symm
        _ = cs.drop i := by rw [hsplit]
    rw [gaps, List.map_cons, weave, ih, hx.written, hgap]

/-- a gap that starts one place earlier has one character more -/
theorem flatten_gaps_of_lt {cs ds : List Char} {i : Nat} {c : Char} (h : c :: ds = cs.drop i)
    {xs : List Span} (hxs : ∀ x ∈ xs, i + 1 ≤ x.start) :
    (gaps cs i xs).flatten = c :: (gaps cs (i + 1) xs).flatten := by
  have htail : cs.drop (i + 1) = ds := by
    rw [← List.drop_drop, ← h, List.drop_one, List.tail_cons]
  cases xs with
  | nil => rw [gaps, gaps, List.flatten_singleton, List.flatten_singleton, htail, ← h]
  | cons x xs =>
    have hlt := hxs x List.mem_cons_self
    have hcut (k : Nat) : (cs.take x.start).drop k = (cs.drop k).take (x.start - k) :=
      List.drop_take
    obtain ⟨n, hn⟩ : ∃ n, x.start - i = n + 1 := ⟨x.start - i - 1, by omega⟩
    have hn' : x.start - (i + 1) = n := by omega
    rw [gaps, gaps, List.flatten_cons, List.flatten_cons, hcut, hcut, ← h, htail, hn, hn',
      List.take_succ_cons, List.cons_append]

/-- the gaps are the plain text -/
theorem flatten_gaps (cs : List Char) {ds : List Char} {i : Nat} (h : ds = cs.drop i) :
    (gaps cs i (spansFrom i (pieces ds))).flatten = (pieces ds).filterMap Piece.plain? := by
  induction ds using pieces.induct generalizing i with
  | case1 => rw [pieces, spansFrom, gaps, ← h, List.flatten_singleton, List.filterMap_nil]
  | case2 c ds r hread ih =>
    obtain ⟨-, hrest⟩ := isConstruct_of_read? (h ▸ hread)
    have hnone : (cs.take i).drop i = [] := by
      rw [List.drop_eq_nil_iff, List.length_take]
      exact Nat.min_le_left _ _
    rw [pieces_of_read? hread, spansFrom, gaps, List.flatten_cons, hnone, List.nil_append, ih hrest]
    rfl
  | case3 c ds hread ih =>
    have htail : ds = cs.drop (i + 1) := by
      rw [← List.drop_drop, ← h, List.drop_one, List.tail_cons]
    have hlater : ∀ x ∈ spansFrom (i + 1) (pieces ds), i + 1 ≤ x.start :=
      fun x hx => ((foundFrom_spansFrom cs htail).bounds x hx).1
    rw [pieces_of_none hread, spansFrom, flatten_gaps_of_lt h hlater, ih htail]
    rfl

/-- the spans of a text are the constructs that are found from its start, one behind the other, and
no others; its tags are theirs, its plain text is the gaps, and both together are the text -/
theorem spans_exact (cs : List Char) :
    (∀ xs, FoundFrom cs 0 xs ↔ xs = spans cs) ∧
      tags cs = (spans cs).map (·.tag) ∧
      residual cs = (gaps cs 0 (spans cs)).flatten ∧
      weave (gaps cs 0 (spans cs)) ((spans cs).map (·.tag.written)) = cs ∧
      ∀ x ∈ spans cs, x.start < x.stop ∧ x.stop ≤ cs.length ∧
        x.tag.name.toList = x.tag.nameText.map Char.toLower := by
  have hfound : FoundFrom cs 0 (spans cs) := foundFrom_spansFrom cs rfl
  refine ⟨fun xs => ⟨fun h => h.unique hfound, ?_⟩, ?_, ?_, ?_, ?_⟩
  · rintro rfl
    exact hfound
  · exact (map_tag_spansFrom 0 (pieces cs)).symm
  · exact (flatten_gaps cs (List.drop_zero (l := cs)).symm).symm
  · exact hfound.weave_gaps
  · intro x hx
    obtain ⟨-, hlt, hle⟩ := hfound.bounds x hx
    exact ⟨hlt, hle, String.toList_ofList⟩

/-- what looks like the head of a tag may hold a tag -/
example : (spans "<np-a <Np-B>x</nP-b>".toList).map (fun x => (x.start, x.tag.name, x.stop)) =
    [(6, "b", 20)] := by cbv

end Debate.Notepad
