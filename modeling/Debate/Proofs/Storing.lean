import Debate.Files.Text
import Debate.Proofs.Effects
import Debate.Proofs.Encoding
import Debate.Proofs.Layout
import Mathlib.Data.List.Nodup
import Mathlib.Data.List.Perm.Subperm
import Mathlib.Data.Nat.Digits.Defs

/-!
# What a file holds after it was written

A text is written beside its file and moved there in the end. So after a text was written, the file
holds its bytes, whatever the tree was like and whatever was to come; and it can be written at all
wherever there is room for it and no step is hindered.

* `Tree.Extends`                      one tree has the directories of another;
* `Disk.of_step`                      what is known of an elementary step that went well;
* `Disk.stat_of_replaceWith`          a file holds the bytes that it was given;
* `Disk.readRecordOr_of_writeRecord`  the value that is read from a file that a value was written to;
* `Disk.exists_stat_freeNumber`       some name beside a file is free;
* `Tree.HasRoom`, `Disk.exists_writeText`   where a text can be written.
-/

namespace Debate.Files

open Debate.Text

/-! ## trees -/

namespace Tree

/-- one tree has all the directories of another -/
def Extends (t t' : Tree) : Prop := ∀ q, t.isDirectory q = true → t'.isDirectory q = true

theorem isDirectory_of_get? {t : Tree} {q : Place} {b : Bool}
    (h : t.get? q = some (.directory b)) : t.isDirectory q = true := by
  rw [isDirectory, h]

theorem exists_of_isDirectory {t : Tree} {q : Place} (h : t.isDirectory q = true) :
    ∃ b, t.get? q = some (.directory b) := by
  unfold isDirectory at h
  split at h
  · exact ⟨_, ‹_›⟩
  · cases h

/-- names that lead somewhere lead to the same place where there are more directories -/
theorem resolveFrom_mono {t t' : Tree} (h : t.Extends t') {names : List String} {here place : Place}
    (hr : t.resolveFrom here names = .ok place) : t'.resolveFrom here names = .ok place := by
  induction names generalizing here with
  | nil => exact hr
  | cons name names ih =>
    rw [resolveFrom] at hr
    split at hr
    case h_1 b hb =>
      obtain ⟨b', hb'⟩ := exists_of_isDirectory (h here (isDirectory_of_get? hb))
      rw [resolveFrom, hb']
      dsimp only
      split at hr
      · rw [if_pos ‹_›]
        exact ih hr
      · rw [if_neg ‹_›]
        split at hr
        · cases hr
        · rw [if_neg ‹_›]
          exact ih hr
    case h_2 => cases hr
    case h_3 => cases hr

theorem resolve_mono {t t' : Tree} (h : t.Extends t') {p : Path} {place : Place}
    (hr : t.resolve p = .ok place) : t'.resolve p = .ok place := by
  unfold resolve at hr ⊢
  split at hr
  · rw [if_pos ‹_›]
    exact resolveFrom_mono h hr
  · cases hr

theorem Extends.trans {t t' t'' : Tree} (h : t.Extends t') (h' : t'.Extends t'') : t.Extends t'' :=
  fun q hq => h' q (h q hq)

/-- a place that is no directory can be written without harm to any -/
theorem extends_put {t : Tree} {p : Place} (hp : t.isDirectory p = false) (n : Node) :
    t.Extends (t.put p n) := by
  intro q hq
  by_cases hnil : q = []
  · rw [hnil]
    rfl
  have hne : q ≠ p := by
    rintro rfl
    rw [hp] at hq
    cases hq
  unfold isDirectory
  rw [get?_put t n hnil, if_neg hne]
  exact hq

theorem extends_remove {t : Tree} {p : Place} (hp : t.isDirectory p = false) :
    t.Extends (t.remove p) := by
  intro q hq
  -- the root is a directory in every tree
  by_cases hnil : q = []
  · rw [hnil]
    rfl
  have hne : q ≠ p := by
    rintro rfl
    rw [hp] at hq
    cases hq
  unfold isDirectory
  rw [get?_remove t hnil, if_neg hne]
  exact hq

theorem isDirectory_remove {t : Tree} {p q : Place} (hq : t.isDirectory q = false) :
    (t.remove p).isDirectory q = false := by
  have hnil : q ≠ [] := by
    rintro rfl
    cases hq
  unfold isDirectory at hq ⊢
  rw [get?_remove t hnil]
  split
  · rename_i heq
    split at heq
    · cases heq
    · rw [heq] at hq
      cases hq
  · rfl

theorem ne_nil_of_isDirectory {t : Tree} {p : Place} (hp : t.isDirectory p = false) : p ≠ [] := by
  rintro rfl
  cases hp

theorem isDirectory_put_file {t : Tree} {q : Place} (p : Place) (bytes : List UInt8)
    (hq : t.isDirectory q = false) : (t.put p (.file bytes)).isDirectory q = false := by
  unfold isDirectory at hq ⊢
  rw [get?_put t _ (ne_nil_of_isDirectory hq)]
  split
  · rename_i heq
    split at heq
    · cases heq
    · rw [heq] at hq
      cases hq
  · rfl

theorem stat_eq_ok_iff {t : Tree} {p : Path} {n : Node} :
    t.stat p = .ok n ↔ ∃ place, t.resolve p = .ok place ∧ t.get? place = some n := by
  unfold stat
  cases hr : t.resolve p with
  | error e =>
    constructor
    · intro h
      cases h
    · rintro ⟨place, h, -⟩
      cases h
  | ok place =>
    simp only [bind, Except.bind]
    constructor
    · intro h
      cases hn : t.get? place with
      | none =>
        rw [hn] at h
        cases h
      | some n' =>
        rw [hn] at h
        exact ⟨place, rfl, congrArg some (Except.ok.inj h) ▸ hn⟩
    · rintro ⟨place', h, hn⟩
      rw [Except.ok.inj h, hn]

theorem stat_put {t : Tree} {p : Path} {place : Place} (hr : t.resolve p = .ok place)
    (hp : t.isDirectory place = false) (n : Node) : (t.put place n).stat p = .ok n := by
  refine stat_eq_ok_iff.mpr ⟨place, resolve_mono (extends_put hp n) hr, ?_⟩
  rw [get?_put t n (ne_nil_of_isDirectory hp), if_pos rfl]

end Tree

@[simp] theorem Path.name_child (p : Path) (name : String) : (p.child name).name = name := by
  simp [Path.name, Path.child]

namespace Disk

/-! ## elementary steps -/

/-- an elementary step: it can be hindered by the path, by an outage, and by the tree -/
theorem carriedOut_step (p : Path) (f : Tree → Except FileError Tree) (d : Disk) :
    carriedOut (step p f) d =
      if isUnspeakable p then (.error unspeakable, d)
      else
        match d.outages.head?.join, f d.tree with
        | some e, _ => (.error (faultAt p e), { d with outages := d.outages.tail })
        | none, .ok tree => (.ok (), { tree, outages := d.outages.tail })
        | none, .error e => (.error (faultAt p e), { d with outages := d.outages.tail }) := by
  unfold step
  cases isUnspeakable p with
  | true => rfl
  | false =>
    rw [if_neg Bool.false_ne_true, if_neg Bool.false_ne_true, carriedOut_bind_ok (carriedOut_get d),
      carriedOut_bind_ok (carriedOut_set _ _)]
    cases d.outages.head?.join with
    | some e => rfl
    | none => cases f d.tree <;> rfl

theorem of_step {p : Path} {f : Tree → Except FileError Tree} {d d' : Disk}
    (h : carriedOut (step p f) d = (.ok (), d')) :
    isUnspeakable p = false ∧ f d.tree = .ok d'.tree := by
  rw [carriedOut_step] at h
  cases hp : isUnspeakable p with
  | true =>
    rw [hp, if_pos rfl] at h
    cases h
  | false =>
    rw [hp, if_neg Bool.false_ne_true] at h
    cases ho : d.outages.head?.join with
    | some e =>
      rw [ho] at h
      cases h
    | none =>
      cases hf : f d.tree with
      | error e =>
        rw [ho, hf] at h
        cases h
      | ok tree =>
        rw [ho, hf] at h
        cases h
        exact ⟨rfl, rfl⟩

/-! ## a file by way of another one -/

theorem stat_of_fill {p : Path} {bytes : List UInt8} {d d' : Disk}
    (h : carriedOut (fill p bytes) d = (.ok (), d')) : d'.tree.stat p = .ok (.file bytes) := by
  obtain ⟨-, hf⟩ := of_step h
  cases hr : d.tree.resolve p with
  | error e =>
    simp only [hr, bind, Except.bind] at hf
    cases hf
  | ok place =>
    simp only [hr, bind, Except.bind] at hf
    split at hf
    case h_1 old hold =>
      rw [← Except.ok.inj hf]
      exact Tree.stat_put hr (by rw [Tree.isDirectory, hold]) _
    case h_2 => cases hf
    case h_3 => cases hf

theorem stat_of_rename {p q : Path} {bytes : List UInt8} {d d' : Disk}
    (hp : d.tree.stat p = .ok (.file bytes)) (h : carriedOut (rename p q) d = (.ok (), d')) :
    d'.tree.stat q = .ok (.file bytes) := by
  obtain ⟨-, hf⟩ := of_step h
  obtain ⟨source, hsource, hbytes⟩ := Tree.stat_eq_ok_iff.mp hp
  cases htarget : d.tree.resolve q with
  | error e =>
    simp only [hsource, htarget, bind, Except.bind] at hf
    cases hf
  | ok target =>
    simp only [hsource, htarget, hbytes, bind, Except.bind] at hf
    split at hf
    · cases hf
    -- the source is no directory, so all that leads to the target is there without it
    have hsource' : d.tree.isDirectory source = false := by rw [Tree.isDirectory, hbytes]
    have htree : d.tree.isDirectory target = false ∧
        (d.tree.remove source).put target (.file bytes) = d'.tree := by
      unfold Tree.isDirectory
      rcases hn : d.tree.get? target with _ | _ | _ <;> rw [hn] at hf
      · exact ⟨rfl, Except.ok.inj hf⟩
      · exact ⟨rfl, Except.ok.inj hf⟩
      · cases hf
    rw [← htree.2]
    exact Tree.stat_put (Tree.resolve_mono (Tree.extends_remove hsource') htarget)
      (Tree.isDirectory_remove htree.1) _

theorem carriedOut_attempt {α : Type} (x : OnDisk α) (d : Disk) :
    carriedOut (attempt x) d = (.ok (carriedOut x d).1, (carriedOut x d).2) := rfl

/-- a character other than the separator stands in one of the parts -/
theorem mem_intercalate {c x : Char} (hc : c ≠ x) (parts : List (List Char)) :
    c ∈ [x].intercalate parts ↔ ∃ part ∈ parts, c ∈ part := by
  induction parts with
  | nil => simp
  | cons part parts ih =>
    cases parts with
    | nil => simp
    | cons part' parts =>
      rw [List.intercalate_cons_cons, List.mem_append, ih, List.mem_append, List.mem_singleton]
      simp [hc]

/-- a character other than a slash or a dot stands in a path if it stands in one of its names -/
theorem mem_text {p : Path} {c : Char} (hc : c ≠ '/') (hdot : c ≠ '.') :
    c ∈ p.text.toList ↔ c ∈ p.root.toList ∨ ∃ n ∈ p.names, c ∈ n.toList := by
  unfold Path.text
  split
  case isTrue h =>
    rw [h.1, h.2]
    simp [hdot]
  case isFalse =>
    rw [String.toList_append, String.toList_intercalate, List.mem_append,
      show "/".toList = ['/'] from rfl, mem_intercalate hc]
    simp

/-- a path can be handed to a disk if all its names can -/
theorem isUnspeakable_eq_false_iff {p : Path} :
    isUnspeakable p = false ↔ '\x00' ∉ p.root.toList ∧ ∀ n ∈ p.names, '\x00' ∉ n.toList := by
  have hmem := mem_text (p := p) (c := '\x00') (by decide) (by decide)
  rw [← not_iff_not, Bool.not_eq_false, isUnspeakable, List.any_eq_true]
  simp only [decide_eq_true_eq, exists_eq_right, hmem, not_and_or, not_not, not_forall, exists_prop]

theorem isUnspeakable_child {p : Path} {name : String} :
    isUnspeakable (p.child name) = false ↔ isUnspeakable p = false ∧ '\x00' ∉ name.toList := by
  rw [isUnspeakable_eq_false_iff, isUnspeakable_eq_false_iff, and_assoc, Path.child]
  simp only [List.mem_append, List.mem_singleton, or_imp, forall_and, forall_eq]

/-- a path beside one that cannot be handed to a disk cannot be handed to it either -/
theorem isUnspeakable_of_beside {t : Tree} {p : Path} {name : String}
    (h : isUnspeakable (besidePath t (p.child name)) = false) :
    isUnspeakable (p.child name) = false := by
  rw [besidePath, Path.parent_child, Path.name_child, isUnspeakable_child] at h
  rw [isUnspeakable_child]
  refine h.imp_right fun h hmem => h ?_
  simp only [String.toList_append, List.mem_append]
  exact .inl (.inl (.inr hmem))

theorem stat_of_replaceWith {p : Path} {name : String} {bytes : List UInt8} {d d' : Disk}
    (h : carriedOut (replaceWith (p.child name) (.ok bytes)) d = (.ok (), d')) :
    isUnspeakable (p.child name) = false ∧ d'.tree.stat (p.child name) = .ok (.file bytes) := by
  unfold replaceWith at h
  obtain ⟨-, d₁, -, h⟩ := exists_of_carriedOut_bind h
  rw [carriedOut_bind_ok (carriedOut_get d₁)] at h
  dsimp only at h
  obtain ⟨⟨⟩, d₂, hcreate, h⟩ := exists_of_carriedOut_bind h
  refine ⟨isUnspeakable_of_beside (of_step hcreate).1, ?_⟩
  rw [carriedOut_bind_ok (carriedOut_attempt _ d₂)] at h
  generalize besidePath d₁.tree (p.child name) = beside at h
  -- a fault on the way is raised again after the file beside is gone
  rcases hfilled : carriedOut (do
      fill beside (← (Except.ok bytes : Except Fault (List UInt8)))
      rename beside (p.child name)) d₂ with ⟨e | _, d₃⟩ <;> rw [hfilled] at h
  · obtain ⟨b, d₄, -, h⟩ := exists_of_carriedOut_bind h
    cases b
    · cases h
    · obtain ⟨-, d₅, -, h⟩ := exists_of_carriedOut_bind h
      cases h
  · cases h
    rw [carriedOut_bind_ok (carriedOut_lift (.ok bytes) d₂)] at hfilled
    obtain ⟨⟨⟩, d₄, hfill, hrename⟩ := exists_of_carriedOut_bind hfilled
    exact stat_of_rename (stat_of_fill hfill) hrename

/-! ## reading -/

theorem carriedOut_exists {p : Path} {n : Node} {d : Disk} (hp : isUnspeakable p = false)
    (h : d.tree.stat p = .ok n) : carriedOut («exists» p) d = (.ok true, d) := by
  rw [«exists», hp, if_neg Bool.false_ne_true, look, carriedOut_bind_ok (carriedOut_get d), exists?, h]
  rfl

theorem carriedOut_read {p : Path} {bytes : List UInt8} {d : Disk} (hp : isUnspeakable p = false)
    (h : d.tree.stat p = .ok (.file bytes)) : carriedOut (Disk.read p) d = (.ok bytes, d) := by
  rw [Disk.read, hp, if_neg Bool.false_ne_true, look, carriedOut_bind_ok (carriedOut_get d), h]
  rfl

/-- a text without carriage returns is what is read from its bytes -/
theorem textOf_encode {s : String} (h : '\r' ∉ s.toList) : textOf (Utf8.encode s) = .ok s := by
  rw [textOf, Utf8.decode?_encode]
  dsimp only
  rw [unifyNewlines_of_not_mem h, String.ofList_toList]

/-- a value that was written is read back, unless some integer of it is too long -/
theorem carriedOut_readRecord {p : Path} {v : Value} {d : Disk} (hp : isUnspeakable p = false)
    (h : d.tree.stat p = .ok (.file (Utf8.encode v.toIndented))) (hv : v.IsPlain) :
    carriedOut (readRecord p) d =
      (match v.tooLong? with
        | none => .ok (.value v)
        | some digits => .error (.badValue (Value.hugeIntegerText digits)), d) := by
  have hread : carriedOut (readPresent p) d = (.ok v.toIndented, d) := by
    rw [readPresent, carriedOut_bind_ok (carriedOut_read hp h), textOf_encode (v.not_mem_toIndented hv)]
    rfl
  rw [readRecord, carriedOut_bind_ok (carriedOut_exists hp h), if_pos rfl, carriedOut_bind_ok hread,
    Value.ofJson_toIndented hv]
  cases v.tooLong? <;> rfl

theorem carriedOut_writeRecord {v : Value} (hv : v.tooLong? = none) (p : Path) (d : Disk) :
    carriedOut (writeRecord p v) d = carriedOut (writeText p v.toIndented) d := by
  have hwritten : written v v.toIndented = .ok v.toIndented := by rw [written, hv]
  rw [writeRecord, carriedOut_bind_ok ((carriedOut_lift _ d).trans (by rw [hwritten]))]

/-- what can be written at all can be read again -/
theorem of_writeRecord {p : Path} {v : Value} {d d' : Disk}
    (h : carriedOut (writeRecord p v) d = (.ok (), d')) :
    v.tooLong? = none ∧ carriedOut (writeText p v.toIndented) d = (.ok (), d') := by
  cases hv : v.tooLong? with
  | none => exact ⟨rfl, (carriedOut_writeRecord hv p d).symm.trans h⟩
  | some digits =>
    have hwritten : written v v.toIndented = .error (.badValue Value.wideIntegerText) := by
      rw [written, hv]
    rw [writeRecord, carriedOut_bind_error ((carriedOut_lift _ d).trans (by rw [hwritten]))] at h
    cases h

/-- the value in a file that was written -/
theorem readRecordOr_of_writeRecord {p : Path} {name : String} {v : Value} {d d' : Disk}
    (hv : v.IsPlain) (h : carriedOut (writeRecord (p.child name) v) d = (.ok (), d'))
    (default : Value) :
    carriedOut (readRecordOr (p.child name) default) d' = (.ok (v, []), d') := by
  obtain ⟨hlong, hwrite⟩ := of_writeRecord h
  obtain ⟨hp, hstat⟩ := stat_of_replaceWith hwrite
  have hread := carriedOut_readRecord hp hstat hv
  rw [hlong] at hread
  rw [readRecordOr, carriedOut_bind_ok hread]
  rfl

end Disk

/-! ## writing without fail -/

theorem padded_injective (width : Nat) : Function.Injective (padded width) := by
  have hvalue (k n : Nat) : Nat.ofDigitChars 10 (List.replicate k '0' ++ Nat.toDigits 10 n) 0 = n := by
    have hzeros : (List.replicate k '0').foldl (fun n c => 10 * n + (c.toNat - '0'.toNat)) 0 = 0 := by
      induction k with
      | zero => rfl
      | succ k ih => exact ih
    rw [Nat.ofDigitChars_eq_foldl, List.foldl_append, hzeros, ← Nat.ofDigitChars_eq_foldl]
    exact Nat.ofDigitChars_toDigits (by decide) (by decide)
  -- zeros in front do not change the value of the digits
  intro m n h
  have hlists := String.ofList_injective h
  rw [← hvalue _ m, hlists, hvalue]

theorem utf8ByteSize_ofList_le (cs : List Char) :
    (String.ofList cs).utf8ByteSize ≤ 4 * cs.length := by
  induction cs with
  | nil => exact Nat.zero_le _
  | cons c cs ih =>
    have hc := Char.utf8Size_le_four c
    rw [String.ofList_cons, String.utf8ByteSize_append, String.utf8ByteSize_singleton,
      List.length_cons]
    omega

/-- a number below ten to the thirtieth is not too long for a name -/
theorem utf8ByteSize_padded_le {n : Nat} (h : n < 10 ^ 30) : (padded 8 n).utf8ByteSize ≤ 160 := by
  have hlength : (Nat.toDigits 10 n).length ≤ 30 := Nat.toDigits_length 10 n 30 (by decide) h
  refine (utf8ByteSize_ofList_le _).trans ?_
  rw [List.length_append, List.length_replicate]
  omega

namespace Tree

theorem resolveFrom_append (t : Tree) (here : Place) (names names' : List String) :
    t.resolveFrom here (names ++ names') =
      (t.resolveFrom here names).bind fun place => t.resolveFrom place names' := by
  induction names generalizing here with
  | nil => rfl
  | cons name names ih =>
    rw [List.cons_append, resolveFrom, resolveFrom]
    split
    · split
      · exact ih _
      · split
        · rfl
        · exact ih _
    · rfl
    · rfl

theorem resolve_child {t : Tree} {p : Path} {place : Place} (hr : t.resolve p = .ok place)
    (hd : t.isDirectory place = true) {name : String} (hname : name ≠ "..")
    (hshort : name.utf8ByteSize ≤ maxName) : t.resolve (p.child name) = .ok (place ++ [name]) := by
  obtain ⟨b, hb⟩ := exists_of_isDirectory hd
  unfold resolve at hr ⊢
  split at hr
  · rw [if_pos (show (p.child name).root = "" from ‹_›), Path.child, resolveFrom_append, hr]
    change t.resolveFrom place [name] = _
    rw [resolveFrom, hb]
    dsimp only
    rw [if_neg hname, if_neg (by omega), resolveFrom]
  · cases hr

/-- whatever stands in a tree but the directory at hand is one of its entries -/
theorem mem_entries_of_get? {t : Tree} {q : Place} {n : Node} (hq : q ≠ [])
    (h : t.get? q = some n) : q ∈ t.entries.map (·.1) := by
  rw [get?, if_neg hq, Option.map_eq_some_iff] at h
  obtain ⟨e, he, -⟩ := h
  have hkey := List.find?_some he
  exact List.mem_map.mpr ⟨e, List.mem_of_find?_eq_some he, of_decide_eq_true hkey⟩

end Tree

namespace Disk

/-- the number that is found is free, unless all that were looked at are taken -/
theorem freeNumber_spec (t : Tree) (nameOf : Nat → Path) (fuel n : Nat) :
    n ≤ freeNumber t nameOf fuel n ∧ freeNumber t nameOf fuel n ≤ n + fuel ∧
      (∀ i, n ≤ i → i < freeNumber t nameOf fuel n → ∃ x, t.stat (nameOf i) = .ok x) ∧
      (freeNumber t nameOf fuel n < n + fuel →
        ∃ e, t.stat (nameOf (freeNumber t nameOf fuel n)) = .error e) := by
  induction fuel generalizing n with
  | zero =>
    refine ⟨Nat.le_refl _, Nat.le_refl _, fun i hi hi' => ?_, fun h => ?_⟩
    · exact absurd hi' (Nat.not_lt.mpr hi)
    · exact absurd h (Nat.lt_irrefl _)
  | succ fuel ih =>
    rw [freeNumber]
    cases hs : t.stat (nameOf n) with
    | error e =>
      dsimp only
      exact ⟨Nat.le_refl _, by omega, fun i hi hi' => absurd hi' (by omega), fun _ => ⟨e, hs⟩⟩
    | ok x =>
      dsimp only
      obtain ⟨hle, hle', htaken, hfree⟩ := ih (n + 1)
      refine ⟨by omega, by omega, fun i hi hi' => ?_, fun h => hfree (by omega)⟩
      rcases Nat.eq_or_lt_of_le hi with rfl | hi
      · exact ⟨x, hs⟩
      · exact htaken i hi hi'

/-- there are not so many files that no name is free -/
theorem exists_stat_freeNumber {t : Tree} {place : Place} {nameOf : Nat → Path}
    {lastOf : Nat → String} (hlast : Function.Injective lastOf)
    (hplace : ∀ i ≤ t.entries.length, t.resolve (nameOf i) = .ok (place ++ [lastOf i])) :
    ∃ e, t.stat (nameOf (freeNumber t nameOf t.entries.length 0)) = .error e := by
  obtain ⟨-, hle, htaken, hfree⟩ := freeNumber_spec t nameOf t.entries.length 0
  generalize freeNumber t nameOf t.entries.length 0 = k at hle htaken hfree
  rcases Nat.lt_or_ge k t.entries.length with hk | hk
  · exact hfree (by omega)
  -- the search may also end without a look at the last name
  obtain rfl : k = t.entries.length := by omega
  cases hs : t.stat (nameOf t.entries.length) with
  | error e => exact ⟨e, rfl⟩
  | ok x =>
    -- all the names are taken: those are more places than there are entries
    have hmem : (List.range (t.entries.length + 1)).map (fun i => place ++ [lastOf i]) ⊆
        t.entries.map (·.1) := by
      intro q hq
      obtain ⟨i, hi, rfl⟩ := List.mem_map.mp hq
      have hi' : i < t.entries.length + 1 := List.mem_range.mp hi
      obtain ⟨y, hy⟩ : ∃ y, t.stat (nameOf i) = .ok y := by
        rcases Nat.lt_succ_iff_lt_or_eq.mp hi' with hlt | rfl
        · exact htaken i (Nat.zero_le _) hlt
        · exact ⟨x, hs⟩
      obtain ⟨q, hq, hy⟩ := Tree.stat_eq_ok_iff.mp hy
      rw [hplace i (by omega)] at hq
      obtain rfl := Except.ok.inj hq
      exact Tree.mem_entries_of_get? (by simp) hy
    have hnodup : ((List.range (t.entries.length + 1)).map fun i => place ++ [lastOf i]).Nodup := by
      refine List.Nodup.map (fun i j h => hlast ?_) List.nodup_range
      simpa using h
    have hlength := (List.subperm_of_subset hnodup hmem).length_le
    rw [List.length_map, List.length_range, List.length_map] at hlength
    omega

theorem carriedOut_step_ok {p : Path} {f : Tree → Except FileError Tree} {t t' : Tree}
    (hp : isUnspeakable p = false) (h : f t = .ok t') :
    carriedOut (step p f) { tree := t } = (.ok (), { tree := t' }) := by
  rw [carriedOut_step, hp, if_neg Bool.false_ne_true]
  simp only [h]
  rfl

theorem carriedOut_step_error {p : Path} {f : Tree → Except FileError Tree} {t : Tree}
    {e : FileError} (hp : isUnspeakable p = false) (h : f t = .error e) :
    carriedOut (step p f) { tree := t } = (.error (faultAt p e), { tree := t }) := by
  rw [carriedOut_step, hp, if_neg Bool.false_ne_true]
  simp only [h]
  rfl

theorem carriedOut_create {t : Tree} {p : Path} {place : Place} (hp : isUnspeakable p = false)
    (hr : t.resolve p = .ok place) (hfree : t.get? place = none) :
    carriedOut (create p) { tree := t } = (.ok (), { tree := t.put place (.file []) }) :=
  carriedOut_step_ok hp (by simp only [hr, bind, Except.bind, hfree])

theorem carriedOut_fill {t : Tree} {p : Path} {place : Place} {old bytes : List UInt8}
    (hp : isUnspeakable p = false) (hr : t.resolve p = .ok place)
    (hold : t.get? place = some (.file old)) :
    carriedOut (fill p bytes) { tree := t } = (.ok (), { tree := t.put place (.file bytes) }) :=
  carriedOut_step_ok hp (by simp only [hr, bind, Except.bind, hold])

theorem exists_rename {t : Tree} {p q : Path} {target : Place} {bytes : List UInt8}
    (hp : isUnspeakable p = false) (hstat : t.stat p = .ok (.file bytes))
    (hq : t.resolve q = .ok target) (htarget : t.isDirectory target = false)
    (hlast : ¬ q.names.getLast?.all (· = "..")) :
    ∃ t', carriedOut (rename p q) { tree := t } = (.ok (), { tree := t' }) := by
  obtain ⟨source, hsource, hbytes⟩ := Tree.stat_eq_ok_iff.mp hstat
  refine ⟨(t.remove source).put target (.file bytes), carriedOut_step_ok hp ?_⟩
  simp only [hsource, hq, bind, Except.bind, hbytes, if_neg hlast]
  unfold Tree.isDirectory at htarget
  rcases hn : t.get? target with _ | _ | b
  · rfl
  · rfl
  · rw [hn] at htarget
    cases htarget

theorem carriedOut_makeDirectory {t : Tree} {p : Path} {place : Place} (hp : isUnspeakable p = false)
    (hr : t.resolve p = .ok place) (hfree : t.get? place = none) :
    carriedOut (makeDirectory p) { tree := t } = (.ok (), { tree := t.put place (.directory false) }) :=
  carriedOut_step_ok hp (by simp only [hr, bind, Except.bind, hfree])

theorem carriedOut_makeDirectory_there {t : Tree} {p : Path} {n : Node}
    (hp : isUnspeakable p = false) (h : t.stat p = .ok n) :
    carriedOut (makeDirectory p) { tree := t } = (.error (faultAt p .exists), { tree := t }) := by
  obtain ⟨place, hr, hn⟩ := Tree.stat_eq_ok_iff.mp h
  exact carriedOut_step_error hp (by simp only [hr, bind, Except.bind, hn])

theorem carriedOut_isDirectory {t : Tree} {p : Path} {b : Bool} (h : t.stat p = .ok (.directory b)) :
    carriedOut (isDirectory p) { tree := t } = (.ok true, { tree := t }) := by
  rw [isDirectory, carriedOut_bind_ok (carriedOut_get _)]
  simp only [h]
  rfl

/-- a directory that is there already is left as it is -/
theorem carriedOut_ensureDirectory {t : Tree} {p : Path} {b : Bool}
    (hp : isUnspeakable p = false) (h : t.stat p = .ok (.directory b)) :
    carriedOut (ensureDirectory p) { tree := t } = (.ok (), { tree := t }) := by
  have hmake : carriedOut (attempt (makeDirectory p)) { tree := t } =
      (.ok (.error (faultAt p .exists)), { tree := t }) := by
    rw [carriedOut_attempt, carriedOut_makeDirectory_there hp h]
  have hthere := carriedOut_isDirectory h
  -- making it fails because it is there, and that is what is wanted
  unfold ensureDirectory
  obtain ⟨root, names⟩ := p
  cases hnames : names.reverse with
  | nil =>
    obtain rfl : names = [] := List.reverse_eq_nil_iff.mp hnames
    rw [ensureFrom, ensureOne, carriedOut_bind_ok hmake]
    exact carriedOut_bind_ok hthere _
  | cons name above =>
    have hback : (name :: above).reverse = names := by rw [← hnames, List.reverse_reverse]
    rw [ensureFrom]
    dsimp only
    rw [hback, carriedOut_bind_ok hmake]
    exact carriedOut_bind_ok hthere _

end Disk

/-- a directory in which a file of a name can be written: it is there, its path can be handed to a
disk, no directory has that name, and it does not hold very many things -/
structure Tree.HasRoom (t : Tree) (directory : Path) (name : String) : Prop where
  isThere : ∃ b, t.stat directory = .ok (.directory b)
  isSpeakable : Disk.isUnspeakable (directory.child name) = false
  isFile : ∀ b, t.stat (directory.child name) ≠ .ok (.directory b)
  few : t.entries.length < 10 ^ 30

namespace Disk

variable {t : Tree} {directory : Path} {name : String}

/-- the name of the file beside another one -/
def besideName (name : String) (n : Nat) : String := "." ++ name ++ "." ++ padded 8 n

theorem besideName_injective (name : String) : Function.Injective (besideName name) := by
  intro m n h
  refine padded_injective 8 (String.toList_injective ?_)
  have hlists := congrArg String.toList h
  simpa only [besideName, String.toList_append, List.append_cancel_left_eq] using hlists

theorem besideName_ne (name : String) (n : Nat) : besideName name n ≠ ".." := by
  intro h
  have hlength := congrArg String.length h
  have hpad : (padded 8 n).length = (8 - (Nat.toDigits 10 n).length) + (Nat.toDigits 10 n).length := by
    simp [padded]
  simp only [besideName, String.length_append] at hlength
  have hdots : ".".length = 1 ∧ "..".length = 2 := by decide
  omega

theorem not_mem_padded {width n : Nat} {c : Char} (hc : c.isDigit = false) (h0 : c ≠ '0') :
    c ∉ (padded width n).toList := by
  intro hmem
  rw [padded, String.toList_ofList, List.mem_append, List.mem_replicate] at hmem
  rcases hmem with ⟨-, rfl⟩ | hmem
  · exact h0 rfl
  · rw [Nat.isDigit_of_mem_toDigits (by decide) (by decide) hmem] at hc
    cases hc

/-- the file beside another one: nothing stands where it goes -/
theorem exists_besidePath {place : Place} (hroom : t.HasRoom directory name)
    (hr : t.resolve directory = .ok place) (hd : t.isDirectory place = true)
    (hshort : name.utf8ByteSize ≤ 90) :
    ∃ beside, besidePath t (directory.child name) = directory.child beside ∧
      isUnspeakable (directory.child beside) = false ∧
      t.resolve (directory.child beside) = .ok (place ++ [beside]) ∧
      t.get? (place ++ [beside]) = none := by
  have hplace (i : Nat) (hi : i ≤ t.entries.length) :
      t.resolve (directory.child (besideName name i)) = .ok (place ++ [besideName name i]) := by
    refine Tree.resolve_child hr hd (besideName_ne name i) ?_
    have hpad := utf8ByteSize_padded_le (Nat.lt_of_le_of_lt hi hroom.few)
    have hdot : ".".utf8ByteSize = 1 := by decide
    simp only [besideName, String.utf8ByteSize_append, Tree.maxName]
    omega
  obtain ⟨e, he⟩ := exists_stat_freeNumber (t := t) (besideName_injective name) hplace
  have hle := (freeNumber_spec t (fun i => directory.child (besideName name i)) t.entries.length 0).2.1
  have hbeside : besidePath t (directory.child name) = directory.child (besideName name
      (freeNumber t (fun i => directory.child (besideName name i)) t.entries.length 0)) := by
    rw [besidePath, Path.parent_child, Path.name_child]
    rfl
  generalize freeNumber t (fun i => directory.child (besideName name i)) t.entries.length 0 = n
    at he hle hbeside
  have hresolve := hplace n (by omega)
  refine ⟨besideName name n, hbeside, ?_, hresolve, ?_⟩
  · rw [isUnspeakable_child]
    refine (isUnspeakable_child.mp hroom.isSpeakable).imp_right fun h hmem => ?_
    -- the dots and the digits are no zero bytes, and neither is any part of the name
    simp only [besideName, String.toList_append, List.mem_append, h, or_false] at hmem
    obtain (hdot | hdot) | hpad := hmem
    · exact absurd hdot (by decide)
    · exact absurd hdot (by decide)
    · exact not_mem_padded (by decide) (by decide) hpad
  · rw [Tree.stat] at he
    simp only [hresolve, bind, Except.bind] at he
    cases hn : t.get? (place ++ [besideName name n]) with
    | none => rfl
    | some x =>
      rw [hn] at he
      cases he

/-- a text can be written where there is room for it, if nothing else is in the way -/
theorem exists_writeText (hroom : t.HasRoom directory name) (hname : name ≠ "..")
    (hshort : name.utf8ByteSize ≤ 90) (s : String) :
    ∃ t', carriedOut (writeText (directory.child name) s) { tree := t } =
      (.ok (), { tree := t' }) := by
  obtain ⟨b, hthere⟩ := hroom.isThere
  obtain ⟨place, hr, hb⟩ := Tree.stat_eq_ok_iff.mp hthere
  have hd := Tree.isDirectory_of_get? hb
  obtain ⟨beside, hbeside, hspeak, hresolve, hfree⟩ := exists_besidePath hroom hr hd hshort
  have htarget := Tree.resolve_child hr hd hname (hshort.trans (by decide))
  have hnil : place ++ [beside] ≠ [] := List.append_ne_nil_of_right_ne_nil _ (List.cons_ne_nil _ _)
  have hnodir : t.isDirectory (place ++ [beside]) = false := by rw [Tree.isDirectory, hfree]
  have hnotarget : t.isDirectory (place ++ [name]) = false := by
    cases hdir : t.isDirectory (place ++ [name]) with
    | false => rfl
    | true =>
      obtain ⟨b', hb'⟩ := Tree.exists_of_isDirectory hdir
      exact absurd (Tree.stat_eq_ok_iff.mpr ⟨_, htarget, hb'⟩) (hroom.isFile b')
  -- the trees with the new file beside, first empty and then full
  let t₁ := t.put (place ++ [beside]) (.file [])
  let t₂ := t₁.put (place ++ [beside]) (.file (Utf8.encode s))
  have hnodir₁ : t₁.isDirectory (place ++ [beside]) = false := Tree.isDirectory_put_file _ _ hnodir
  have hext : t₁.Extends t₂ := Tree.extends_put hnodir₁ _
  have hext' : t.Extends t₂ := (Tree.extends_put hnodir _).trans hext
  have hfill : carriedOut (fill (directory.child beside) (Utf8.encode s)) { tree := t₁ } =
      (.ok (), { tree := t₂ }) :=
    carriedOut_fill hspeak (Tree.resolve_mono (Tree.extends_put hnodir _) hresolve)
      ((Tree.get?_put t _ hnil).trans (if_pos rfl))
  obtain ⟨t₃, hrename⟩ : ∃ t₃, carriedOut (rename (directory.child beside) (directory.child name))
      { tree := t₂ } = (.ok (), { tree := t₃ }) :=
    exists_rename hspeak (Tree.stat_put (Tree.resolve_mono (Tree.extends_put hnodir _) hresolve)
        hnodir₁ _) (Tree.resolve_mono hext' htarget)
      (Tree.isDirectory_put_file _ _ (Tree.isDirectory_put_file _ _ hnotarget))
      (by simpa [Path.child] using hname)
  refine ⟨t₃, ?_⟩
  rw [writeText, replaceWith, Path.parent_child,
    carriedOut_bind_ok (carriedOut_ensureDirectory (isUnspeakable_child.mp hroom.isSpeakable).1 hthere),
    carriedOut_bind_ok (carriedOut_get _)]
  dsimp only
  rw [hbeside, carriedOut_bind_ok (carriedOut_create hspeak hresolve hfree),
    carriedOut_bind_ok (carriedOut_attempt _ _),
    carriedOut_bind_ok (carriedOut_lift (.ok (Utf8.encode s)) _), carriedOut_bind_ok hfill, hrename]
  rfl

end Disk

end Debate.Files
