import Debate.Proofs.Effects
import Debate.Value.Access
import Mathlib.Data.List.Perm.Basic

/-!
# Looking into unchecked values

Every way of looking into a value of any shape has faults of its own, none of which blames a service for the
value. It goes well exactly if the value has the shape that it is taken for, where a value that counts as
absent stands for an empty one. Sorting asks for comparisons, which may be faults too; it loses no value and
makes none up, and it comes to an end if every two of the values can be compared, as texts can.

* `Answers`, `Acquits`                         results and failures of a service, and computations that never
  blame one;
* `ObjectOr`, `FirstObject`, `ListOr`, `TextOr`   shapes of values;
* `concat_eq_ok`                               values that can be put together;
* `insertSorted_perm`, `sortedStart_perm`      what one step of sorting keeps;
* `sorted_perm`                                what sorting keeps;
* `Comparable`, `exists_sorted`                values that can all be compared can be sorted;
* `exists_sorted_texts`                        sorted values are texts if, and only if, the values were.
-/

namespace Debate

variable {α β : Type}

/-! ## faults that do not blame the service -/

/-- a result, or a failure of a service -/
def Answers (r : Except Fault α) : Prop := (∃ a, r = .ok a) ∨ ∃ m, r = .error (.provider m)

/-- whatever comes of it, it is no failure of a service -/
def Acquits (r : Except Fault α) : Prop := ∀ m, r ≠ .error (.provider m)

namespace Acquits

variable {x : Except Fault α}

theorem ok (a : α) : Acquits (.ok a) := by
  intro m h
  exact nomatch h

theorem unsupported (text : String) : Acquits (.error (.unsupported text) : Except Fault α) := by
  intro m h
  exact nomatch h

theorem missingKey (key : Value) : Acquits (.error (.missingKey key) : Except Fault α) := by
  intro m h
  exact nomatch h

theorem bind {f : α → Except Fault β} (hx : Acquits x) (hf : ∀ a, Acquits (f a)) :
    Acquits (x >>= f) := by
  intro m h
  obtain h | ⟨a, -, h⟩ := of_bind_error h
  · exact hx m h
  · exact hf a m h

/-- a computation that does not blame the service gives a result if an answer comes of what follows -/
theorem exists_of_bind {f : α → Except Fault β} (hx : Acquits x) (h : Answers (x >>= f)) :
    ∃ a, x = .ok a ∧ Answers (f a) := by
  obtain ⟨b, h⟩ | ⟨m, h⟩ := h
  · obtain ⟨a, ha, h⟩ := exists_of_bind_ok h
    exact ⟨a, ha, .inl ⟨b, h⟩⟩
  · obtain h | ⟨a, ha, h⟩ := of_bind_error h
    · exact absurd h (hx m)
    · exact ⟨a, ha, .inr ⟨m, h⟩⟩

theorem not_fails (hx : Acquits x) : (∃ m, x = .error (.provider m)) ↔ False :=
  ⟨fun ⟨m, h⟩ => hx m h, False.elim⟩

theorem map (f : α → β) (hx : Acquits x) : Acquits (x.map f) := by
  cases x with
  | error e => exact fun m h => hx m (by rw [Except.error.inj h])
  | ok a => exact ok _

theorem mapM {f : α → Except Fault β} (hf : ∀ a, Acquits (f a)) (as : List α) :
    Acquits (as.mapM f) := by
  induction as with
  | nil => exact ok []
  | cons a as ih =>
    rw [List.mapM_cons]
    exact (hf a).bind fun b => ih.bind fun bs => ok _

theorem filterMapM {f : α → Except Fault (Option β)} (hf : ∀ a, Acquits (f a)) (as : List α) :
    Acquits (as.filterMapM f) := by
  induction as with
  | nil => exact ok []
  | cons a as ih =>
    rw [List.filterMapM_cons]
    refine (hf a).bind fun b => ?_
    cases b with
    | none => exact ih
    | some b => exact ih.bind fun bs => ok _

theorem foldlM {f : β → α → Except Fault β} (hf : ∀ b a, Acquits (f b a)) (b : β) (as : List α) :
    Acquits (as.foldlM f b) := by
  induction as generalizing b with
  | nil => exact ok b
  | cons a as ih =>
    rw [List.foldlM_cons]
    exact (hf b a).bind fun b => ih b

end Acquits

namespace Value

theorem acquits_fields (v : Value) : Acquits v.fields := by
  unfold fields
  split
  · exact .ok _
  · exact .unsupported _

theorem acquits_elements (v : Value) : Acquits v.elements := by
  cases v with
  | list items => exact .ok _
  | text s => exact .ok _
  | object fs => exact .ok _
  | _ => exact .unsupported _

theorem acquits_first (v : Value) : Acquits v.first := by
  unfold first
  split
  · exact .ok _
  · exact .unsupported _
  · split
    · exact .ok _
    · exact .unsupported _
  · exact .missingKey _
  · exact .unsupported _

theorem acquits_at (v : Value) (key : String) : Acquits (v.at key) := by
  unfold «at»
  split
  · split
    · exact .ok _
    · exact .missingKey _
  · exact .unsupported _
  · exact .unsupported _
  · exact .unsupported _

theorem acquits_mentions (v : Value) (s : String) : Acquits (v.mentions s) := by
  cases v with
  | list items => exact .ok _
  | text s => exact .ok _
  | object fs => exact .ok _
  | _ => exact .unsupported _

theorem acquits_concatFrom (separator : String) (n : Nat) (vs : List Value) :
    Acquits (concatFrom separator n vs) := by
  fun_induction concatFrom separator n vs with
  | case1 => exact .ok []
  | case2 n s vs ih => exact ih.map _
  | case3 => exact .unsupported _

theorem acquits_concat (separator : String) (vs : List Value) : Acquits (concat separator vs) :=
  (acquits_concatFrom separator 0 vs).map _

mutual

theorem acquits_less (v w : Value) : Acquits (less v w) := by
  unfold less
  split
  · exact .ok _
  · exact acquits_lessItems _ _
  · split
    · exact .ok _
    · exact .unsupported _

theorem acquits_lessItems (vs ws : List Value) : Acquits (lessItems vs ws) := by
  unfold lessItems
  split
  · exact .ok _
  · exact .ok _
  · split
    · exact acquits_lessItems _ _
    · exact acquits_less _ _

end

theorem acquits_ascending (before : Value) (vs : List Value) : Acquits (ascending before vs) := by
  induction vs generalizing before with
  | nil => exact .ok 1
  | cons v vs ih =>
    refine (acquits_less v before).bind fun b => ?_
    cases b with
    | true => exact .ok 1
    | false => exact (ih v).bind fun n => .ok _

theorem acquits_descending (before : Value) (vs : List Value) : Acquits (descending before vs) := by
  induction vs generalizing before with
  | nil => exact .ok 1
  | cons v vs ih =>
    refine (acquits_less v before).bind fun b => ?_
    cases b with
    | true => exact (ih v).bind fun n => .ok _
    | false => exact .ok 1

theorem acquits_placeAmong (vs : Array Value) (v : Value) (low high : Nat) :
    Acquits (placeAmong vs v low high) := by
  fun_induction placeAmong vs v low high with
  | case1 low high hlt middle hnone => exact .ok low
  | case2 low high hlt middle w hw ihlow ihhigh =>
    refine (acquits_less v w).bind fun b => ?_
    cases b with
    | true => exact ihlow
    | false => exact ihhigh
  | case3 low high hge => exact .ok low

theorem acquits_sortedStart (vs : List Value) : Acquits (sortedStart vs) := by
  unfold sortedStart
  split
  · refine (acquits_less _ _).bind fun b => ?_
    cases b with
    | true => exact (acquits_descending _ _).bind fun n => .ok _
    | false => exact (acquits_ascending _ _).bind fun n => .ok _
  · exact .ok _

theorem acquits_sorted (vs : List Value) : Acquits (sorted vs) :=
  (acquits_sortedStart vs).bind fun r =>
    .foldlM (fun _ v => (acquits_placeAmong _ v 0 _).bind fun _ => .ok _) r.1 r.2

/-! ## shapes of values -/

/-- an object, or a value that counts as absent, which stands for an empty one -/
def ObjectOr (v : Value) (fs : Fields) : Prop := v = .object fs ∨ v.isVoid = true ∧ fs = []

/-- a list that begins with an object, or a value that counts as absent, which stands for one that
begins with an empty one -/
def FirstObject (v : Value) (fs : Fields) : Prop :=
  (∃ rest, v = .list (.object fs :: rest)) ∨ v.isVoid = true ∧ fs = []

/-- a list, or a value that counts as absent, which stands for an empty one -/
def ListOr (v : Value) (items : List Value) : Prop := v = .list items ∨ v.isVoid = true ∧ items = []

/-- a text, or a value that counts as absent, which stands for an empty one -/
def TextOr (v : Value) (s : String) : Prop := v = .text s ∨ v.isVoid = true ∧ s = ""

theorem fields_eq_ok {v : Value} {fs : Fields} : v.fields = .ok fs ↔ v = .object fs := by
  cases v <;> simp [fields, fields?]

theorem orElse_fields {v : Value} {fs : Fields} :
    (v.orElse (.object [])).fields = .ok fs ↔ v.ObjectOr fs := by
  unfold orElse ObjectOr
  by_cases hv : v.isVoid = true
  · rw [if_pos hv, fields_eq_ok]
    constructor
    · intro h
      exact .inr ⟨hv, (Value.object.inj h).symm⟩
    · rintro (rfl | ⟨-, rfl⟩)
      · rw [List.isEmpty_iff.mp hv]
      · rfl
  · rw [if_neg hv, fields_eq_ok]
    simp [hv]

theorem orElse_text {v : Value} {s : String} : v.orElse (.text "") = .text s ↔ v.TextOr s := by
  unfold orElse TextOr
  by_cases hv : v.isVoid = true
  · rw [if_pos hv]
    constructor
    · intro h
      exact .inr ⟨hv, (Value.text.inj h).symm⟩
    · rintro (rfl | ⟨-, rfl⟩)
      · rw [String.isEmpty_iff.mp hv]
      · rfl
  · rw [if_neg hv]
    simp [hv]

theorem first_eq_object {v : Value} {fs : Fields} :
    v.first = .ok (.object fs) ↔ ∃ rest, v = .list (.object fs :: rest) := by
  constructor
  · intro h
    unfold first at h
    split at h
    · rename_i c rest
      rw [Except.ok.inj h]
      exact ⟨rest, rfl⟩
    · exact nomatch h
    · split at h
      · exact nomatch Except.ok.inj h
      · exact nomatch h
    · exact nomatch h
    · exact nomatch h
  · rintro ⟨rest, rfl⟩
    rfl

theorem orElse_first {v : Value} {fs : Fields} :
    (v.orElse (.list [.object []])).first = .ok (.object fs) ↔ v.FirstObject fs := by
  unfold orElse FirstObject
  by_cases hv : v.isVoid = true
  · rw [if_pos hv, first_eq_object]
    constructor
    · rintro ⟨rest, h⟩
      obtain ⟨hfs, -⟩ := List.cons.inj (Value.list.inj h)
      exact .inr ⟨hv, (Value.object.inj hfs).symm⟩
    · rintro (⟨rest, rfl⟩ | ⟨-, rfl⟩)
      · exact nomatch hv
      · exact ⟨[], rfl⟩
  · rw [if_neg hv, first_eq_object]
    simp [hv]

theorem orElse_elements {v : Value} {items : List Value} (h : v.ListOr items) :
    (v.orElse (.list [])).elements = .ok items := by
  unfold orElse
  obtain rfl | ⟨hv, rfl⟩ := h
  · split
    · rename_i hv
      rw [List.isEmpty_iff.mp hv]
      rfl
    · rfl
  · rw [if_pos hv]
    rfl

/-- what objects are made of, if they are the elements of a value -/
theorem listOr_of_elements {v : Value} {items : List Value}
    (h : (v.orElse (.list [])).elements = .ok items) (hitems : ∀ p ∈ items, ∃ fs, p = .object fs) :
    v.ListOr items := by
  unfold orElse at h
  by_cases hv : v.isVoid = true
  · rw [if_pos hv] at h
    exact .inr ⟨hv, (Except.ok.inj h).symm⟩
  · rw [if_neg hv] at h
    -- characters and keys are texts, and there is at least one
    have hnone (ss : List String) (hss : ss.map .text = items) : ss = [] := by
      cases ss with
      | nil => rfl
      | cons s ss =>
        obtain ⟨fs, hfs⟩ := hitems (.text s) (by rw [← hss]; exact List.mem_cons_self)
        exact nomatch hfs
    cases v with
    | list vs =>
      rw [← Except.ok.inj h]
      exact .inl rfl
    | text s =>
      have hchars : (s.toList.map String.singleton).map Value.text = items := by
        rw [List.map_map]
        exact Except.ok.inj h
      have hs := List.map_eq_nil_iff.mp (hnone _ hchars)
      exact absurd (String.isEmpty_iff.mpr (String.toList_eq_nil_iff.mp hs)) hv
    | object fs =>
      have hkeys : (fs.map (·.1)).map Value.text = items := by
        rw [List.map_map]
        exact Except.ok.inj h
      have hfs := List.map_eq_nil_iff.mp (hnone _ hkeys)
      exact absurd (List.isEmpty_iff.mpr hfs) hv
    | _ => exact nomatch h

theorem concatFrom_texts (separator : String) (n : Nat) (ss : List String) :
    concatFrom separator n (ss.map .text) = .ok ss := by
  induction ss generalizing n with
  | nil => rfl
  | cons s ss ih =>
    rw [List.map_cons, concatFrom, ih]
    rfl

theorem eq_of_concatFrom {separator : String} {n : Nat} {vs : List Value} {ss : List String}
    (h : concatFrom separator n vs = .ok ss) : vs = ss.map .text := by
  fun_induction concatFrom separator n vs generalizing ss with
  | case1 => rw [← Except.ok.inj h, List.map_nil]
  | case2 n s vs ih =>
    cases hrest : concatFrom separator (n + 1) vs with
    | error e =>
      rw [hrest] at h
      exact nomatch h
    | ok ts =>
      rw [hrest] at h
      rw [← Except.ok.inj h, List.map_cons, ih hrest]
  | case3 => exact nomatch h

/-- values can be put together exactly if all of them are texts -/
theorem concat_eq_ok {separator s : String} {vs : List Value} :
    concat separator vs = .ok s ↔ ∃ ss : List String, vs = ss.map .text ∧ separator.intercalate ss = s := by
  unfold concat
  constructor
  · intro h
    cases hvs : concatFrom separator 0 vs with
    | error e =>
      rw [hvs] at h
      exact nomatch h
    | ok ss =>
      rw [hvs] at h
      exact ⟨ss, eq_of_concatFrom hvs, Except.ok.inj h⟩
  · rintro ⟨ss, rfl, rfl⟩
    rw [concatFrom_texts]
    rfl

/-! ## what sorting keeps -/

theorem insertSorted_perm {vs ws : List Value} {v : Value} (h : insertSorted vs v = .ok ws) :
    ws.Perm (vs ++ [v]) := by
  obtain ⟨place, -, h⟩ := exists_of_bind_ok h
  have hws : vs.take place ++ v :: vs.drop place = ws := Except.ok.inj h
  rw [← hws]
  calc (vs.take place ++ v :: vs.drop place).Perm (v :: (vs.take place ++ vs.drop place)) :=
        List.perm_middle
    _ = v :: vs := by rw [List.take_append_drop]
    _ |>.Perm (vs ++ [v]) := (List.perm_append_singleton v vs).symm

theorem foldlM_insertSorted_perm {vs ws rest : List Value}
    (h : rest.foldlM insertSorted vs = .ok ws) : ws.Perm (vs ++ rest) := by
  induction rest generalizing vs with
  | nil => rw [← Except.ok.inj h, List.append_nil]
  | cons v rest ih =>
    rw [List.foldlM_cons] at h
    obtain ⟨us, hus, h⟩ := exists_of_bind_ok h
    have hrest : ws.Perm (us ++ rest) := ih h
    refine hrest.trans ?_
    rw [List.append_cons]
    exact (insertSorted_perm hus).append_right rest

theorem sortedStart_perm {vs start rest : List Value} (h : sortedStart vs = .ok (start, rest)) :
    (start ++ rest).Perm vs := by
  unfold sortedStart at h
  split at h
  · obtain ⟨turned, -, h⟩ := exists_of_bind_ok h
    cases turned with
    | true =>
      obtain ⟨n, -, h⟩ := exists_of_bind_ok h
      obtain ⟨rfl, rfl⟩ := Prod.mk.inj (Except.ok.inj h)
      refine ((List.reverse_perm _).append_right _).trans ?_
      rw [List.take_append_drop]
    | false =>
      obtain ⟨n, -, h⟩ := exists_of_bind_ok h
      obtain ⟨rfl, rfl⟩ := Prod.mk.inj (Except.ok.inj h)
      rw [List.take_append_drop]
  · obtain ⟨rfl, rfl⟩ := Prod.mk.inj (Except.ok.inj h)
    rw [List.append_nil]

/-- sorting loses nothing and makes nothing up -/
theorem sorted_perm {vs ws : List Value} (h : sorted vs = .ok ws) : ws.Perm vs := by
  obtain ⟨⟨start, rest⟩, hstart, h⟩ := exists_of_bind_ok h
  have hall : ws.Perm (start ++ rest) := foldlM_insertSorted_perm h
  exact hall.trans (sortedStart_perm hstart)

/-! ## values that can be compared -/

/-- every two of the values can be compared -/
def Comparable (vs : List Value) : Prop := ∀ v ∈ vs, ∀ w ∈ vs, ∃ b, less v w = .ok b

theorem Comparable.of_subset {vs ws : List Value} (h : Comparable vs) (hsub : ws ⊆ vs) :
    Comparable ws := fun v hv w hw => h v (hsub hv) w (hsub hw)

theorem Comparable.tail {vs : List Value} {v : Value} (h : Comparable (v :: vs)) : Comparable vs :=
  h.of_subset (List.subset_cons_self v vs)

theorem exists_ascending {before : Value} {vs : List Value} (h : Comparable (before :: vs)) :
    ∃ n, ascending before vs = .ok n := by
  induction vs generalizing before with
  | nil => exact ⟨1, rfl⟩
  | cons v vs ih =>
    obtain ⟨b, hb⟩ := h v (by simp) before (by simp)
    obtain ⟨n, hn⟩ := ih h.tail
    rw [ascending, hb, hn]
    cases b with
    | true => exact ⟨_, rfl⟩
    | false => exact ⟨_, rfl⟩

theorem exists_descending {before : Value} {vs : List Value} (h : Comparable (before :: vs)) :
    ∃ n, descending before vs = .ok n := by
  induction vs generalizing before with
  | nil => exact ⟨1, rfl⟩
  | cons v vs ih =>
    obtain ⟨b, hb⟩ := h v (by simp) before (by simp)
    obtain ⟨n, hn⟩ := ih h.tail
    rw [descending, hb, hn]
    cases b with
    | true => exact ⟨_, rfl⟩
    | false => exact ⟨_, rfl⟩

theorem exists_sortedStart {vs : List Value} (h : Comparable vs) : ∃ r, sortedStart vs = .ok r := by
  unfold sortedStart
  split
  · rename_i v w others
    obtain ⟨b, hb⟩ := h w (by simp) v (by simp)
    rw [hb]
    cases b with
    | true =>
      obtain ⟨n, hn⟩ := exists_descending h.tail
      rw [hn]
      exact ⟨_, rfl⟩
    | false =>
      obtain ⟨n, hn⟩ := exists_ascending h.tail
      rw [hn]
      exact ⟨_, rfl⟩
  · exact ⟨_, rfl⟩

theorem exists_placeAmong {vs : List Value} {v : Value} (h : Comparable (vs ++ [v])) (low high : Nat) :
    ∃ n, placeAmong vs.toArray v low high = .ok n := by
  fun_induction placeAmong vs.toArray v low high with
  | case1 low high hlt middle hnone => exact ⟨low, rfl⟩
  | case2 low high hlt middle w hw ihlow ihhigh =>
    have hmem : w ∈ vs := by
      rw [List.getElem?_toArray] at hw
      exact List.mem_of_getElem? hw
    obtain ⟨b, hb⟩ := h v (by simp) w (by simp [hmem])
    rw [hb]
    cases b with
    | true => exact ihlow
    | false => exact ihhigh
  | case3 low high hge => exact ⟨low, rfl⟩

theorem exists_insertSorted {vs : List Value} {v : Value} (h : Comparable (vs ++ [v])) :
    ∃ ws, insertSorted vs v = .ok ws := by
  obtain ⟨n, hn⟩ := exists_placeAmong h 0 vs.length
  unfold insertSorted
  rw [hn]
  exact ⟨_, rfl⟩

theorem exists_foldlM_insertSorted {vs rest : List Value} (h : Comparable (vs ++ rest)) :
    ∃ ws, rest.foldlM insertSorted vs = .ok ws := by
  induction rest generalizing vs with
  | nil => exact ⟨vs, rfl⟩
  | cons v rest ih =>
    rw [List.append_cons] at h
    obtain ⟨us, hus⟩ := exists_insertSorted (h.of_subset (List.subset_append_left _ rest))
    have hnext : Comparable (us ++ rest) :=
      h.of_subset ((insertSorted_perm hus).append_right rest).subset
    rw [List.foldlM_cons, hus]
    exact ih hnext

/-- values that can all be compared with each other can be sorted -/
theorem exists_sorted {vs : List Value} (h : Comparable vs) : ∃ ws, sorted vs = .ok ws := by
  obtain ⟨⟨start, rest⟩, hstart⟩ := exists_sortedStart h
  unfold sorted
  rw [hstart]
  exact exists_foldlM_insertSorted (h.of_subset (sortedStart_perm hstart).subset)

theorem comparable_texts (ss : List String) : Comparable (ss.map .text) := by
  intro v hv w hw
  obtain ⟨s, -, rfl⟩ := List.mem_map.mp hv
  obtain ⟨t, -, rfl⟩ := List.mem_map.mp hw
  exact ⟨decide (s.toList < t.toList), by rw [less]⟩

/-- values that are all texts -/
theorem exists_texts_iff {vs : List Value} :
    (∃ ss : List String, vs = ss.map .text) ↔ ∀ v ∈ vs, ∃ s, v = .text s := by
  constructor
  · rintro ⟨ss, rfl⟩ v hv
    obtain ⟨s, -, rfl⟩ := List.mem_map.mp hv
    exact ⟨s, rfl⟩
  · intro h
    induction vs with
    | nil => exact ⟨[], rfl⟩
    | cons v vs ih =>
      obtain ⟨s, rfl⟩ := h v List.mem_cons_self
      obtain ⟨ss, rfl⟩ := ih fun w hw => h w (List.mem_cons_of_mem _ hw)
      exact ⟨s :: ss, rfl⟩

/-- sorted values are texts if, and only if, the values were -/
theorem exists_sorted_texts {vs : List Value} :
    (∃ ss : List String, sorted vs = .ok (ss.map .text)) ↔ ∃ ss : List String, vs = ss.map .text := by
  constructor
  · rintro ⟨ss, hss⟩
    have hperm := sorted_perm hss
    rw [exists_texts_iff]
    intro v hv
    exact exists_texts_iff.mp ⟨ss, rfl⟩ v (hperm.mem_iff.mpr hv)
  · rintro ⟨ss, rfl⟩
    obtain ⟨ws, hws⟩ := exists_sorted (comparable_texts ss)
    have hperm := sorted_perm hws
    obtain ⟨ts, rfl⟩ := exists_texts_iff.mpr fun w hw =>
      exists_texts_iff.mp ⟨ss, rfl⟩ w (hperm.mem_iff.mp hw)
    exact ⟨ts, hws⟩

end Value

end Debate
