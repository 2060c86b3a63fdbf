import Debate.Notepad.Unchecked
import Debate.Proofs.Linewise

/-!
# Edits that cannot be applied

Of edits that were put together by hand some can be applied and others cannot. An edit that cannot should
cost nothing but itself: the notepad is left as it is, and stays a text for the edits behind it. There
are two ways for an edit to cost more. A new text that is no text is taken all the same; and the remark on
an edit that is skipped names the edit, which fails if a number in it is too long to be written.

* `Unchecked.edit?`            the edit of the right types that is meant, if it can be applied;
* `Unchecked.made`             a notepad after an edit that costs nothing but itself;
* `Unchecked.Spoils`           an edit that costs more;
* `Unchecked.apply_text`       every other edit does what is meant;
* `CostThemselves`             what is asked of edits in a row;
* `costThemselves_unless_spoiled`   it holds if, and only if, none of them costs more.
-/

namespace Debate.Notepad

open Debate.Text Debate.Number

namespace Unchecked

/-! ## what is meant -/

/-- the line below which something is to be put. A fractional number names a place only above the first
line or below the last one -/
def insertion? (line : Value) (n : Nat) : Option Int :=
  match placeOf line with
  | .at l => some l
  | .between x => if x.ltInt n then if x.gtInt 0 then none else some 0 else some n
  | .nowhere => none

/-- the number of one of `n` lines -/
def existing? (line : Value) (n : Nat) : Option Int :=
  match placeOf line with
  | .at l => if 1 ≤ l ∧ l ≤ n then some l else none
  | .between _ | .nowhere => none

/-- the edit of the right types that is meant by one of unchecked type, if it can be applied to a notepad -/
def edit? (d : String) : Unchecked → Option Edit
  | .replaceAll (.text c) => some (.replaceAll c)
  | .append (.text c) => some (.append c)
  | .prepend (.text c) => some (.prepend c)
  | .insert line (.text c) => (insertion? line (lines d.toList).length).map fun l => .insert l c
  | .replace line (.text c) => (existing? line (lines d.toList).length).map fun l => .replace l c
  | .delete line => (existing? line (lines d.toList).length).map .delete
  | .substitute (.text find) (.text replacement) all =>
    if find.isEmpty then none else some (.substitute find replacement (!all.isVoid))
  | _ => none

/-- a notepad after an edit that is made if it can be applied, and costs nothing but itself otherwise -/
def made (d : String) (e : Unchecked) : String :=
  match e.edit? d with
  | some f => f.apply d
  | none => d

/-- a new text that is no text -/
def IsMisplaced (e : Unchecked) : Prop := ∃ v, e = .replaceAll v ∧ v.text? = none

/-- an edit that costs more than itself: it is a new text that is no text, or the remark that it cannot be
applied cannot be written -/
def Spoils (e : Unchecked) (d : String) : Prop :=
  e.IsMisplaced ∨ e.onText d = .skipped ∧ e.tooLong?.isSome

/-! ## one edit -/

variable {d : String} {e : Unchecked}

theorem made_of_some {f : Edit} (h : e.edit? d = some f) : made d e = f.apply d := by
  rw [made, h]

theorem made_of_none (h : e.edit? d = none) : made d e = d := by
  rw [made, h]

/-- what is meant by an edit is done, or the edit is skipped and nothing is meant by it -/
def Serves (e : Unchecked) (d : String) : Prop :=
  e.onText d = .becomes (.text (made d e)) ∨ e.onText d = .skipped ∧ made d e = d

theorem serves_of_some {f : Edit} (h : e.edit? d = some f) (hdone : e.onText d = become f d) :
    e.Serves d := by
  refine .inl ?_
  rw [hdone, made_of_some h, become]

theorem serves_of_skipped (h : e.edit? d = none) (hdone : e.onText d = .skipped) : e.Serves d :=
  .inr ⟨hdone, made_of_none h⟩

/-- an edit that is looked at and does nothing -/
theorem serves_of_idle (h : e.edit? d = none) (hdone : e.onText d = .becomes (.text d)) : e.Serves d := by
  refine .inl ?_
  rw [hdone, made_of_none h]

theorem serves_insert (line c : Value) (d : String) : (insert line c).Serves d := by
  cases c with
  | text c =>
    cases hplace : placeOf line with
    | «at» l =>
      exact serves_of_some (f := .insert l c) (by simp [edit?, insertion?, hplace])
        (by simp [onText, hplace])
    | between x =>
      -- the place is moved into the range of the lines first, and a fraction is left only within it
      by_cases hlow : x.ltInt (lines d.toList).length = true
      · by_cases hhigh : x.gtInt 0 = true
        · exact serves_of_skipped (by simp [edit?, insertion?, hplace, hlow, hhigh])
            (by simp [onText, hplace, hlow, hhigh])
        · exact serves_of_some (f := .insert 0 c) (by simp [edit?, insertion?, hplace, hlow, hhigh])
            (by simp [onText, hplace, hlow, hhigh])
      · exact serves_of_some (f := .insert (lines d.toList).length c)
          (by simp [edit?, insertion?, hplace, hlow]) (by simp [onText, hplace, hlow])
    | nowhere =>
      exact serves_of_skipped (by simp [edit?, insertion?, hplace]) (by simp [onText, hplace])
  | _ => exact serves_of_skipped rfl (by simp [onText])

theorem existing?_of_outside {line : Value} {l : Int} {n : Nat} (hplace : placeOf line = .at l)
    (h : lineIndex? l n = none) : existing? line n = none := by
  have hout := lineIndex?_eq_none_iff.mp h
  rw [existing?, hplace]
  exact if_neg (by omega)

theorem existing?_of_index {line : Value} {l : Int} {n i : Nat} (hplace : placeOf line = .at l)
    (h : lineIndex? l n = some i) : existing? line n = some l := by
  obtain ⟨rfl, hi⟩ := lineIndex?_eq_some_iff.mp h
  rw [existing?, hplace]
  exact if_pos (by omega)

/-- an edit of one line serves if it does so for a line that is there, and otherwise is either skipped or
without effect -/
theorem serves_existing (line : Value)
    (hnone : existing? line (lines d.toList).length = none → e.edit? d = none)
    (hindex : ∀ l i, placeOf line = .at l → lineIndex? l (lines d.toList).length = some i → e.Serves d)
    (houtside : ∀ l, placeOf line = .at l → lineIndex? l (lines d.toList).length = none →
      e.onText d = .becomes (.text d))
    (hbetween : ∀ x, placeOf line = .between x →
      e.onText d = if isWithin x (lines d.toList).length then .skipped else .becomes (.text d))
    (hnowhere : placeOf line = .nowhere → e.onText d = .skipped) : e.Serves d := by
  cases hplace : placeOf line with
  | «at» l =>
    cases hl : lineIndex? l (lines d.toList).length with
    | none => exact serves_of_idle (hnone (existing?_of_outside hplace hl)) (houtside l hplace hl)
    | some i => exact hindex l i hplace hl
  | between x =>
    have hedit : e.edit? d = none := hnone (by rw [existing?, hplace])
    by_cases hwithin : isWithin x (lines d.toList).length = true
    · exact serves_of_skipped hedit (by rw [hbetween x hplace, if_pos hwithin])
    · exact serves_of_idle hedit (by rw [hbetween x hplace, if_neg hwithin])
  | nowhere => exact serves_of_skipped (hnone (by rw [existing?, hplace])) (hnowhere hplace)

theorem serves_replace (line c : Value) (d : String) : (replace line c).Serves d := by
  refine serves_existing line (fun hnone => ?_) (fun l i hplace hl => ?_) (fun l hplace hl => ?_)
    (fun x hplace => by simp [onText, hplace]) (fun hplace => by simp [onText, hplace])
  · cases c <;> simp [edit?, hnone]
  · have hsome := existing?_of_index hplace hl
    cases c with
    | text c =>
      exact serves_of_some (f := .replace l c) (by simp [edit?, hsome]) (by simp [onText, hplace])
    | _ => exact serves_of_skipped rfl (by simp [onText, hplace, hl])
  · cases c with
    | text c => simp [onText, hplace, become, (Edit.apply_of_outside hl c).1]
    | _ => simp [onText, hplace, hl]

theorem serves_delete (line : Value) (d : String) : (delete line).Serves d := by
  refine serves_existing line (fun hnone => ?_) (fun l i hplace hl => ?_) (fun l hplace hl => ?_)
    (fun x hplace => by simp [onText, hplace]) (fun hplace => by simp [onText, hplace])
  · simp [edit?, hnone]
  · have hsome := existing?_of_index hplace hl
    exact serves_of_some (f := .delete l) (by simp [edit?, hsome]) (by simp [onText, hplace])
  · simp [onText, hplace, become, (Edit.apply_of_outside hl "").2]

theorem serves_substitute (find replacement all : Value) (d : String) :
    (substitute find replacement all).Serves d := by
  by_cases hvoid : find.isVoid = true
  · refine serves_of_idle ?_ (by simp [onText, hvoid])
    cases find with
    | text f =>
      have hf : f.isEmpty = true := hvoid
      cases replacement <;> simp [edit?, hf]
    | _ => rfl
  · cases find with
    | text f =>
      have hf : ¬ f.isEmpty = true := hvoid
      cases replacement with
      | text w =>
        exact serves_of_some (f := .substitute f w (!all.isVoid)) (by simp [edit?, hf])
          (by simp [onText, hf])
      | _ => exact serves_of_skipped rfl (by simp [onText, hf])
    | _ => exact serves_of_skipped rfl (by simp [onText, hvoid])

/-- every edit but a new text that is no text does what is meant, or is skipped -/
theorem serves (d : String) (h : ¬ e.IsMisplaced) : e.Serves d := by
  cases e with
  | replaceAll c =>
    cases c with
    | text c => exact serves_of_some (f := .replaceAll c) rfl (by simp [onText, become, Edit.apply, Edit.onChars])
    | _ => exact absurd ⟨_, rfl, rfl⟩ h
  | append c =>
    cases c with
    | text c => exact serves_of_some (f := .append c) rfl rfl
    | _ => exact serves_of_skipped rfl rfl
  | prepend c =>
    cases c with
    | text c => exact serves_of_some (f := .prepend c) rfl rfl
    | _ => exact serves_of_skipped rfl rfl
  | insert line c => exact serves_insert line c d
  | replace line c => exact serves_replace line c d
  | delete line => exact serves_delete line d
  | substitute find replacement all => exact serves_substitute find replacement all d
  | unknown v => exact serves_of_skipped rfl rfl

/-- an edit that costs nothing but itself does what is meant -/
theorem apply_text (h : ¬ e.Spoils d) : apply (.text d) e = some (.text (made d e)) := by
  rcases serves d fun hmisplaced => h (.inl hmisplaced) with hdone | ⟨hskipped, hmade⟩
  · rw [apply, effect, hdone]
    rfl
  · have hshort : e.tooLong?.isSome = false := by
      simpa using fun hlong => h (.inr ⟨hskipped, hlong⟩)
    rw [apply, effect, hskipped, hmade, remarked, hshort]
    rfl

theorem apply_replaceAll (d v : Value) : apply d (.replaceAll v) = some v := by
  cases d <;> rfl

/-- an edit that is skipped, and cannot be named in the remark on it -/
theorem apply_unnameable (hskipped : e.onText d = .skipped) (hlong : e.tooLong?.isSome) :
    apply (.text d) e = none := by
  rw [apply, effect, hskipped, remarked, if_pos hlong]

/-- an edit that costs more leaves no text -/
theorem Spoils.apply_ne (h : e.Spoils d) (d' : String) : apply (.text d) e ≠ some (.text d') := by
  rcases h with ⟨v, rfl, hv⟩ | ⟨hskipped, hlong⟩
  · rw [apply_replaceAll]
    rintro heq
    cases heq
    cases hv
  · rw [apply_unnameable hskipped hlong]
    nofun

/-! ## edits in a row -/

variable {es fs : List Unchecked}

/-- a notepad after edits that cost nothing but themselves -/
def madeAll (d : String) (es : List Unchecked) : String := es.foldl made d

/-- none of the edits costs more than itself when its turn comes -/
def Unspoiled (d : String) : List Unchecked → Prop
  | [] => True
  | e :: es => ¬ e.Spoils d ∧ Unspoiled (made d e) es

theorem unspoiled_append : Unspoiled d (es ++ fs) ↔ Unspoiled d es ∧ Unspoiled (madeAll d es) fs := by
  induction es generalizing d with
  | nil => simp [Unspoiled, madeAll]
  | cons e es ih => rw [List.cons_append, Unspoiled, ih, Unspoiled, and_assoc]; rfl

theorem applyAll_unspoiled (h : Unspoiled d es) :
    applyAll (.text d) es = some (.text (madeAll d es)) := by
  induction es generalizing d with
  | nil => rfl
  | cons e es ih =>
    obtain ⟨he, hes⟩ := h
    rw [applyAll_cons, apply_text he, Option.bind_some, ih hes]
    rfl

/-- nothing is spoiled if the notepad is a text after each of the edits -/
theorem unspoiled_of_texts
    (h : ∀ before after, es = before ++ after → ∃ d', applyAll (.text d) before = some (.text d')) :
    Unspoiled d es := by
  induction es generalizing d with
  | nil => trivial
  | cons e es ih =>
    have he : ¬ e.Spoils d := fun hspoils => by
      obtain ⟨d', hd'⟩ := h [e] es rfl
      rw [applyAll_cons] at hd'
      obtain ⟨v, hv, hrest⟩ := Option.bind_eq_some_iff.mp hd'
      rw [applyAll_nil] at hrest
      cases hrest
      exact hspoils.apply_ne d' hv
    refine ⟨he, ih fun before after hes => ?_⟩
    obtain ⟨d', hd'⟩ := h (e :: before) after (by rw [hes, List.cons_append])
    rw [applyAll_cons, apply_text he, Option.bind_some] at hd'
    exact ⟨d', hd'⟩

end Unchecked

open Unchecked

/-- edits that cost nothing but themselves: nothing fails, and the notepad is a text after each of them; an
edit that can be applied is applied, and any other leaves the notepad as it is and may be left out -/
structure CostThemselves (d : String) (es : List Unchecked) : Prop where
  texts : ∀ before after, es = before ++ after → ∃ d', applyAll (.text d) before = some (.text d')
  applied : ∀ before e after d' f, es = before ++ e :: after →
    applyAll (.text d) before = some (.text d') → e.edit? d' = some f →
    applyAll (.text d) (before ++ [e]) = some (.text (f.apply d'))
  left : ∀ before e after d', es = before ++ e :: after →
    applyAll (.text d) before = some (.text d') → e.edit? d' = none →
    applyAll (.text d) (before ++ [e]) = some (.text d') ∧
      applyAll (.text d) es = applyAll (.text d) (before ++ after)

theorem CostThemselves.of_unspoiled {d : String} {es : List Unchecked} (h : Unspoiled d es) :
    CostThemselves d es := by
  have hstep (before : List Unchecked) (e : Unchecked) (after : List Unchecked) (d' : String)
      (hes : es = before ++ e :: after) (hbefore : applyAll (.text d) before = some (.text d')) :
      apply (.text d') e = some (.text (made d' e)) := by
    obtain ⟨hunspoiled, he, -⟩ := unspoiled_append.mp (hes ▸ h)
    rw [applyAll_unspoiled hunspoiled] at hbefore
    cases hbefore
    exact apply_text he
  refine ⟨fun before after hes => ?_, fun before e after d' f hes hbefore hf => ?_,
    fun before e after d' hes hbefore hnone => ?_⟩
  · exact ⟨_, applyAll_unspoiled (unspoiled_append.mp (hes ▸ h)).1⟩
  · rw [applyAll_append, hbefore, Option.bind_some, applyAll_cons,
      hstep before e after d' hes hbefore, made_of_some hf, Option.bind_some, applyAll_nil]
  · have he := hstep before e after d' hes hbefore
    rw [made_of_none hnone] at he
    constructor
    · rw [applyAll_append, hbefore, Option.bind_some, applyAll_cons, he, Option.bind_some, applyAll_nil]
    · rw [hes, applyAll_append, applyAll_append, hbefore, Option.bind_some, Option.bind_some,
        applyAll_cons, he, Option.bind_some]

/-- edits cost nothing but themselves if, and only if, none of them spoils the notepad; the first that does
leaves a notepad that is no text, or ends in a fault -/
theorem costThemselves_unless_spoiled (d : String) (es : List Unchecked) :
    (CostThemselves d es ↔ Unspoiled d es) ∧
      ∀ before e after, es = before ++ e :: after → Unspoiled d before → e.Spoils (madeAll d before) →
        (∀ v, e = .replaceAll v → applyAll (.text d) (before ++ [e]) = some v ∧ v.text? = none) ∧
          (e.onText (madeAll d before) = .skipped → applyAll (.text d) es = none) := by
  refine ⟨⟨fun h => unspoiled_of_texts h.texts, .of_unspoiled⟩, fun before e after hes hbefore hspoils => ?_⟩
  have hrun := applyAll_unspoiled hbefore
  constructor
  · rintro v rfl
    refine ⟨?_, ?_⟩
    · rw [applyAll_append, hrun, Option.bind_some, applyAll_cons, apply_replaceAll, Option.bind_some,
        applyAll_nil]
    · rcases hspoils with ⟨w, hw, hnone⟩ | ⟨hskipped, -⟩
      · cases hw
        exact hnone
      · cases hskipped
  · intro hskipped
    rcases hspoils with ⟨w, rfl, -⟩ | ⟨-, hlong⟩
    · cases hskipped
    · rw [hes, applyAll_append, hrun, Option.bind_some, applyAll_cons,
        apply_unnameable hskipped hlong, Option.bind_none]

/-- a number in place of the text, and an edit of a line behind it -/
theorem not_costThemselves_number :
    applyAll (.text "one") [.replaceAll (.int 5), .insert (.int 0) (.text "x")] = none ∧
      ¬ CostThemselves "one" [.replaceAll (.int 5), .insert (.int 0) (.text "x")] := by
  have hnone : applyAll (.text "one") [.replaceAll (.int 5), .insert (.int 0) (.text "x")] = none := rfl
  refine ⟨hnone, fun h => ?_⟩
  obtain ⟨d', hd'⟩ := h.texts _ [] (List.append_nil _).symm
  rw [hnone] at hd'
  cases hd'

end Debate.Notepad
