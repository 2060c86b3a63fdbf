import Debate.Proofs.Sparing
import Debate.Proofs.Widening

/-!
# Files that are replaced

A file is written in five steps, each of which may fail: the directories that it lies in are made, a new
file is made beside it, filled, and put in its place; if the bytes cannot be put in place, the new file is
taken away. Whatever the tree is like and whichever of the steps fails, either the file holds the bytes in
the end and all others stand as they stood, or every file stands as it stood. At most directories are made.

* `Tree.Beside`               a tree with one more file than another;
* `Disk.tryReplace`, `Disk.tidyUp`   all steps but the last, and the last;
* `Disk.replaceWith_eq`       how a file is replaced by way of them;
* `Disk.of_tryReplace`        what was done when the last step comes;
* `Disk.TidiesUp`             nothing is in the way of the last step;
* `Disk.AllOrNothing`         what is there in the end;
* `Disk.written_all_or_nothing`   texts and records that are put in a file.
-/

namespace Debate.Files

open Debate.Text

namespace Tree

variable {t t' : Tree} {q r : Place}

/-! ## one more file -/

/-- a tree has a file where another has nothing, and what the other has elsewhere -/
structure Beside (q : Place) (t t' : Tree) : Prop where
  free : t.get? q = none
  isFile : t'.isFile q = true
  same : ∀ r, r ≠ q → t'.get? r = t.get? r

namespace Beside

theorem ne_nil (h : t.Beside q t') : q ≠ [] := by
  rintro rfl
  exact nomatch h.free

theorem put (h : t.Beside q t') (bytes : List UInt8) : t.Beside q (t'.put q (.file bytes)) where
  free := h.free
  isFile := by rw [Tree.isFile, get?_put t' _ h.ne_nil, if_pos rfl]
  same := by
    intro r hr
    by_cases hnil : r = []
    · rw [hnil]
      rfl
    · rw [get?_put t' _ hnil, if_neg hr]
      exact h.same r hr

theorem isDirectory (h : t.Beside q t') : t'.isDirectory q = false := by
  obtain ⟨bytes, hbytes⟩ := exists_of_isFile h.isFile
  rw [Tree.isDirectory, hbytes]

theorem toExtends (h : t.Beside q t') : t.Extends t' := by
  intro r hr
  have hne : r ≠ q := by
    rintro rfl
    rw [Tree.isDirectory, h.free] at hr
    cases hr
  rw [Tree.isDirectory, h.same r hne]
  exact hr

/-- the other tree is left when the file is taken away -/
theorem get?_remove (h : t.Beside q t') (r : Place) : (t'.remove q).get? r = t.get? r := by
  by_cases hnil : r = []
  · rw [hnil]
    rfl
  rw [Tree.get?_remove t' hnil]
  by_cases hr : r = q
  · rw [if_pos hr, hr, h.free]
  · rw [if_neg hr, h.same r hr]

end Beside

theorem beside_put (h : t.get? q = none) (bytes : List UInt8) : t.Beside q (t.put q (.file bytes)) := by
  have hnil : q ≠ [] := by
    rintro rfl
    exact nomatch h
  refine ⟨h, by rw [isFile, get?_put t _ hnil, if_pos rfl], fun r hr => ?_⟩
  by_cases hroot : r = []
  · rw [hroot]
    rfl
  · rw [get?_put t _ hroot, if_neg hr]

theorem Widens.of_get? {A : List Place} {t'' : Tree} (h : t.Widens A t')
    (hsame : ∀ r, t''.get? r = t'.get? r) : t.Widens A t'' := by
  intro r
  rw [hsame r]
  exact h r

/-- a tree has these bytes in the file that a path leads to, and elsewhere what another has, and perhaps
more directories at some of these places -/
structure Replaced (A : List Place) (p : Path) (bytes : List UInt8) (t t' : Tree) : Prop where
  stat : t'.stat p = .ok (.file bytes)
  same : ∀ q, q ≠ p.place →
    t'.get? q = t.get? q ∨ q ∈ A ∧ t.get? q = none ∧ t'.get? q = some (.directory false)

end Tree

namespace Disk

variable {p q : Path} {d d' : Disk}

/-! ## steps that went well -/

theorem of_create (h : carriedOut (create p) d = (.ok (), d')) :
    d.tree.resolve p = .ok p.place ∧ d.tree.Beside p.place d'.tree := by
  obtain ⟨hr, hput⟩ := of_stepAt h
  refine ⟨hr, ?_⟩
  cases hn : d.tree.get? p.place with
  | some n =>
    rw [hn] at hput
    exact nomatch hput
  | none =>
    rw [hn] at hput
    rw [← Except.ok.inj hput]
    exact Tree.beside_put hn []

theorem of_fill {bytes : List UInt8} {t : Tree} (hbeside : t.Beside p.place d.tree)
    (h : carriedOut (fill p bytes) d = (.ok (), d')) :
    t.Beside p.place d'.tree := by
  obtain ⟨-, hput⟩ := of_stepAt h
  obtain ⟨old, hold⟩ := Tree.exists_of_isFile hbeside.isFile
  rw [hold] at hput
  rw [← Except.ok.inj hput]
  exact hbeside.put bytes

/-- where a file was moved away and to, nothing else is changed -/
theorem of_rename {t : Tree} (hbeside : t.Beside p.place d.tree)
    (h : carriedOut (rename p q) d = (.ok (), d')) :
    ∀ r, r ≠ q.place → d'.tree.get? r = t.get? r := by
  obtain ⟨-, hmove⟩ := of_step h
  obtain ⟨bytes, hbytes⟩ := Tree.exists_of_isFile hbeside.isFile
  cases hsource : d.tree.resolve p with
  | error e =>
    simp only [hsource, bind, Except.bind] at hmove
    exact nomatch hmove
  | ok source =>
    obtain rfl := Tree.place_of_resolve hsource
    cases htarget : d.tree.resolve q with
    | error e =>
      simp only [hsource, htarget, bind, Except.bind] at hmove
      exact nomatch hmove
    | ok target =>
      obtain rfl := Tree.place_of_resolve htarget
      simp only [hsource, htarget, hbytes, bind, Except.bind] at hmove
      split at hmove
      · exact nomatch hmove
      have hput : (d.tree.remove p.place).put q.place (.file bytes) = d'.tree := by
        rcases hn : d.tree.get? q.place with _ | _ | _ <;> rw [hn] at hmove
        · exact Except.ok.inj hmove
        · exact Except.ok.inj hmove
        · exact nomatch hmove
      intro r hr
      rw [← hput]
      by_cases hnil : r = []
      · rw [hnil]
        rfl
      rw [Tree.get?_put _ _ hnil, if_neg hr]
      exact hbeside.get?_remove r

theorem carriedOut_remove {t : Tree} (hp : isUnspeakable p = false) (hr : t.resolve p = .ok p.place)
    (hbeside : t.Beside p.place d.tree) (houtage : d.outages.head?.join = none) :
    carriedOut (remove p) d = (.ok (), { tree := d.tree.remove p.place, outages := d.outages.tail }) := by
  obtain ⟨bytes, hbytes⟩ := Tree.exists_of_isFile hbeside.isFile
  have hresolve : d.tree.resolve p = .ok p.place := Tree.resolve_mono hbeside.toExtends hr
  rw [remove, carriedOut_step, hp, if_neg Bool.false_ne_true, houtage]
  simp only [hresolve, hbytes, bind, Except.bind]

theorem widens_of {r : Except Fault Unit} (h : carriedOut (ensureDirectory p) d = (r, d')) :
    d.tree.Widens p.way d'.tree := by
  have hmoves := (widens_ensureDirectory p d).1
  rwa [h] at hmoves

/-! ## the last step, and those before it -/

/-- all that is done to replace a file, up to what is done when the bytes cannot be put in place: then
the file that was made beside it, and why -/
def tryReplace (p : Path) (content : Except Fault (List UInt8)) : OnDisk (Option (Path × Fault)) := do
  ensureDirectory p.parent
  let d ← get
  let beside := besidePath d.tree p
  create beside
  match ← attempt (do fill beside (← content); rename beside p) with
  | .ok () => return none
  | .error e => return some (beside, e)

/-- a file that was made beside another one is taken away -/
def tidyUp : Option (Path × Fault) → OnDisk Unit
  | none => return ()
  | some (beside, e) => do
    if ← «exists» beside then remove beside
    throw e

theorem replaceWith_eq (p : Path) (content : Except Fault (List UInt8)) :
    replaceWith p content = tryReplace p content >>= tidyUp := by
  simp only [replaceWith, tryReplace, bind_assoc]
  congr 1
  funext _
  congr 1
  funext d
  congr 1
  funext _
  congr 1
  funext r
  cases r with
  | error e => rw [pure_bind]; rfl
  | ok _ => rw [pure_bind]; rfl

/-- what is known when the file beside is there: it is the only new one, and at most directories were made -/
structure Started (p beside : Path) (d d₁ : Disk) (t : Tree) : Prop where
  isSpeakable : isUnspeakable beside = false
  widens : d.tree.Widens p.parent.way t
  resolve : t.resolve beside = .ok beside.place
  beside : t.Beside beside.place d₁.tree

/-- the fault of bytes that could not be put in place, with the file that was made for them -/
def leftOver (beside : Path) : Except Fault Unit → Option (Path × Fault)
  | .ok () => none
  | .error e => some (beside, e)

/-- either no file was made beside the other one, or it was, and the bytes were put in it or not -/
theorem of_tryReplace {content : Except Fault (List UInt8)} {r : Except Fault (Option (Path × Fault))}
    (h : carriedOut (tryReplace p content) d = (r, d')) :
    (∃ e, r = .error e ∧ d.tree.Widens p.parent.way d'.tree) ∨
      ∃ beside d₁ t filled, Started p beside d d₁ t ∧
        carriedOut (do fill beside (← content); rename beside p) d₁ = (filled, d') ∧
        r = .ok (leftOver beside filled) := by
  rw [tryReplace, carriedOut_bind] at h
  rcases hmake : carriedOut (ensureDirectory p.parent) d with ⟨_ | _, d₀⟩ <;> rw [hmake] at h
  · obtain ⟨rfl, rfl⟩ := Prod.mk.inj h
    exact .inl ⟨_, rfl, widens_of hmake⟩
  dsimp only at h
  rw [carriedOut_bind_ok (carriedOut_get d₀)] at h
  generalize besidePath d₀.tree p = beside at h
  rw [carriedOut_bind] at h
  rcases hcreate : carriedOut (create beside) d₀ with ⟨_ | _, d₁⟩ <;> rw [hcreate] at h
  · obtain ⟨rfl, rfl⟩ := Prod.mk.inj h
    refine .inl ⟨_, rfl, ?_⟩
    rw [tree_of_step_error hcreate]
    exact widens_of hmake
  dsimp only at h
  obtain ⟨hresolve, hbeside⟩ := of_create hcreate
  have hstarted : Started p beside d d₁ d₀.tree :=
    ⟨(of_step hcreate).1, widens_of hmake, hresolve, hbeside⟩
  rw [carriedOut_bind_ok (carriedOut_attempt _ d₁)] at h
  rcases hfilled : carriedOut (do fill beside (← content); rename beside p) d₁ with ⟨filled, d₂⟩
  rw [hfilled] at h
  cases filled with
  | error e =>
    obtain ⟨rfl, rfl⟩ := Prod.mk.inj h
    exact .inr ⟨beside, d₁, d₀.tree, .error e, hstarted, hfilled, rfl⟩
  | ok _ =>
    obtain ⟨rfl, rfl⟩ := Prod.mk.inj h
    exact .inr ⟨beside, d₁, d₀.tree, .ok (), hstarted, hfilled, rfl⟩

theorem of_fill_rename_error {beside : Path} {content : Except Fault (List UInt8)} {t : Tree} {e : Fault}
    (hbeside : t.Beside beside.place d.tree)
    (h : carriedOut (do fill beside (← content); rename beside p) d = (.error e, d')) :
    t.Beside beside.place d'.tree := by
  rcases of_carriedOut_bind_error h with hcontent | ⟨bytes, d₁, hcontent, h⟩
  · rw [carriedOut_lift] at hcontent
    obtain ⟨-, rfl⟩ := Prod.mk.inj hcontent
    exact hbeside
  · rw [carriedOut_lift] at hcontent
    obtain ⟨-, rfl⟩ := Prod.mk.inj hcontent
    rcases of_carriedOut_bind_error h with hfill | ⟨_, d₂, hfill, hrename⟩
    · rw [tree_of_step_error hfill]
      exact hbeside
    · rw [tree_of_step_error hrename]
      exact of_fill hbeside hfill

theorem of_fill_rename_ok {beside : Path} {content : Except Fault (List UInt8)} {t : Tree}
    (hbeside : t.Beside beside.place d.tree)
    (h : carriedOut (do fill beside (← content); rename beside p) d = (.ok (), d')) :
    ∃ bytes, content = .ok bytes ∧ d'.tree.stat p = .ok (.file bytes) ∧
      ∀ r, r ≠ p.place → d'.tree.get? r = t.get? r := by
  obtain ⟨bytes, d₁, hcontent, h⟩ := exists_of_carriedOut_bind h
  rw [carriedOut_lift] at hcontent
  obtain ⟨hbytes, rfl⟩ := Prod.mk.inj hcontent
  obtain ⟨_, d₂, hfill, hrename⟩ := exists_of_carriedOut_bind h
  exact ⟨bytes, hbytes, stat_of_rename (stat_of_fill hfill) hrename,
    of_rename (of_fill hbeside hfill) hrename⟩

/-- a file that was made beside another one is gone when no outage is in the way of that -/
theorem tidyUp_leftOver {beside : Path} {d₁ : Disk} {t : Tree} {e : Fault} (hstarted : Started p beside d d₁ t)
    (hbeside : t.Beside beside.place d'.tree) (houtage : d'.outages.head?.join = none) :
    ∃ d'', carriedOut (tidyUp (some (beside, e))) d' = (.error e, d'') ∧
      d.tree.Widens p.parent.way d''.tree := by
  obtain ⟨bytes, hbytes⟩ := Tree.exists_of_isFile hbeside.isFile
  have hstat : d'.tree.stat beside = .ok (.file bytes) :=
    Tree.stat_eq_ok_iff.mpr ⟨_, Tree.resolve_mono hbeside.toExtends hstarted.resolve, hbytes⟩
  have hwidens : d.tree.Widens p.parent.way (d'.tree.remove beside.place) :=
    hstarted.widens.of_get? hbeside.get?_remove
  refine ⟨{ tree := d'.tree.remove beside.place, outages := d'.outages.tail }, ?_, hwidens⟩
  rw [tidyUp, carriedOut_bind_ok (carriedOut_exists hstarted.isSpeakable hstat), if_pos rfl]
  exact carriedOut_bind_ok (carriedOut_remove hstarted.isSpeakable hstarted.resolve hbeside houtage) _

/-! ## all or nothing -/

/-- nothing is in the way when the file that was made beside another one is taken away -/
def TidiesUp (p : Path) (content : Except Fault (List UInt8)) (d : Disk) : Prop :=
  ∀ left d₁, carriedOut (tryReplace p content) d = (.ok (some left), d₁) → d₁.outages.head?.join = none

/-- where no outage is to come, none is to come later -/
def StaysClear (d d' : Disk) : Prop := d.outages = [] → d'.outages = []

instance : Std.Refl StaysClear := ⟨fun _ => id⟩

instance : IsTrans Disk StaysClear := ⟨fun _ _ _ h h' hd => h' (h hd)⟩

theorem staysClear_step (p : Path) (f : Tree → Except FileError Tree) : Moves StaysClear (step p f) := by
  have htail {d : Disk} (h : d.outages = []) : d.outages.tail = [] := by rw [h, List.tail_nil]
  exact moves_step (fun _ => id) (fun d => htail) fun d t' _ _ => htail

theorem staysClear_tryReplace (p : Path) (content : Except Fault (List UInt8)) :
    Moves StaysClear (tryReplace p content) := by
  refine Moves.bind (moves_ensureDirectory fun names _ => staysClear_step _ _) fun _ => ?_
  refine Moves.bind moves_get fun d => Moves.bind (staysClear_step _ _) fun _ => ?_
  have hfilled (beside : Path) : Moves StaysClear (do fill beside (← content); rename beside p) := by
    refine Moves.bind (fun d => ?_) fun bytes =>
      Moves.bind (staysClear_step _ _) fun _ => staysClear_step _ _
    rw [carriedOut_lift]
    exact id
  refine Moves.bind (hfilled _).attempt fun r => ?_
  split
  · exact moves_pure _
  · exact moves_pure _

/-- nothing is in the way on a disk without outages -/
theorem tidiesUp_of_outages {content : Except Fault (List UInt8)} (h : d.outages = []) :
    TidiesUp p content d := by
  intro left d₁ htried
  have hclear := staysClear_tryReplace p content d h
  rw [htried] at hclear
  rw [hclear]
  rfl

/-- either a file holds these bytes in the end and every other file stands as it stood, or it ends in a
fault and every file stands as it stood; at most the directories that the file lies in are made -/
def AllOrNothing (x : OnDisk Unit) (p : Path) (bytes : List UInt8) (d : Disk) : Prop :=
  (∃ d', carriedOut x d = (.ok (), d') ∧ d.tree.Replaced p.parent.way p bytes d'.tree) ∨
    ∃ e d', carriedOut x d = (.error e, d') ∧ d.tree.Widens p.parent.way d'.tree

theorem allOrNothing_replaceWith {bytes : List UInt8} (h : TidiesUp p (.ok bytes) d) :
    AllOrNothing (replaceWith p (.ok bytes)) p bytes d := by
  rw [AllOrNothing, replaceWith_eq]
  rcases htried : carriedOut (tryReplace p (.ok bytes)) d with ⟨r, d₂⟩
  obtain ⟨e, rfl, hwidens⟩ | ⟨beside, d₁, t, filled, hstarted, hfilled, rfl⟩ := of_tryReplace htried
  · exact .inr ⟨e, d₂, carriedOut_bind_error htried _, hwidens⟩
  rw [carriedOut_bind_ok htried]
  cases filled with
  | error e =>
    obtain ⟨d', htidy, hwidens⟩ := tidyUp_leftOver (e := e) hstarted
      (of_fill_rename_error hstarted.beside hfilled) (h _ _ htried)
    exact .inr ⟨e, d', htidy, hwidens⟩
  | ok _ =>
    obtain ⟨_, hbytes, hstat, hsame⟩ := of_fill_rename_ok hstarted.beside hfilled
    obtain rfl := Except.ok.inj hbytes
    refine .inl ⟨d₂, rfl, hstat, fun q hq => ?_⟩
    rw [hsame q hq]
    exact hstarted.widens q

theorem allOrNothing_writeRecord {v : Value} (h : TidiesUp p (.ok (Utf8.encode v.toIndented)) d) :
    AllOrNothing (writeRecord p v) p (Utf8.encode v.toIndented) d := by
  cases hv : v.tooLong? with
  | none =>
    rw [AllOrNothing, carriedOut_writeRecord hv]
    exact allOrNothing_replaceWith h
  | some digits =>
    -- an integer that is too long is found before anything is touched
    have hwritten : carriedOut (liftM (written v v.toIndented) : OnDisk String) d =
        (.error (.badValue Value.wideIntegerText), d) := by
      rw [carriedOut_lift, written, hv]
    exact .inr ⟨_, d, carriedOut_bind_error hwritten _, .refl _ _⟩

/-- whatever the disk is like, which path it is, and what is written: a text, or a value as a record, is put
in its file as a whole or not at all, whichever of the steps fails, if only the file that was made beside
it can be taken away. It is put there wherever there is room for it and no step is hindered -/
theorem written_all_or_nothing (p : Path) (d : Disk) :
    (∀ s, TidiesUp p (.ok (Utf8.encode s)) d → AllOrNothing (writeText p s) p (Utf8.encode s) d) ∧
    (∀ v : Value, TidiesUp p (.ok (Utf8.encode v.toIndented)) d →
      AllOrNothing (writeRecord p v) p (Utf8.encode v.toIndented) d) ∧
    (d.outages = [] → ∀ directory name, p = directory.child name → d.tree.HasRoom directory name →
      name ≠ ".." → name.utf8ByteSize ≤ 90 → ∀ s, ∃ d', carriedOut (writeText p s) d = (.ok (), d')) := by
  refine ⟨fun s h => allOrNothing_replaceWith h, fun v h => allOrNothing_writeRecord h, ?_⟩
  rintro houtages directory name rfl hroom hname hshort s
  obtain ⟨t', ht'⟩ := exists_writeText hroom hname hshort s
  obtain ⟨tree, outages⟩ := d
  obtain rfl : outages = [] := houtages
  exact ⟨_, ht'⟩

/-- a text is not put in the place of a directory, nor when the disk is busy just before the end; a record
is put in a file beside them, and a text is -/
theorem written_all_or_nothing_busy :
    let d : Disk := { tree := { entries := [(["a"], .directory false), (["b"], .file [1])] } }
    let busy : Disk := { d with outages := [none, none, none, some .busy] }
    let a : Path := { names := ["a"] }
    let b : Path := { names := ["b"] }
    AllOrNothing (writeText a "x") a (Utf8.encode "x") d ∧
      AllOrNothing (writeText b "x") b (Utf8.encode "x") busy ∧
      AllOrNothing (writeRecord b .null) b (Utf8.encode (Value.toIndented .null)) d ∧
      ∃ d', carriedOut (writeText b "x") d = (.ok (), d') := by
  intro d busy a b
  have htidy : TidiesUp b (.ok (Utf8.encode "x")) busy := by
    intro left d₁ htried
    have hclear : (carriedOut (tryReplace b (.ok (Utf8.encode "x"))) busy).2.outages.head?.join = none := by
      decide +kernel
    rwa [htried] at hclear
  have hroom : d.tree.HasRoom {} "b" := by
    refine ⟨⟨false, rfl⟩, by decide +kernel, fun b h => ?_, by decide⟩
    exact nomatch Except.ok.inj h
  exact ⟨(written_all_or_nothing a d).1 "x" (tidiesUp_of_outages rfl),
    (written_all_or_nothing b busy).1 "x" htidy,
    (written_all_or_nothing b d).2.1 .null (tidiesUp_of_outages rfl),
    (written_all_or_nothing b d).2.2 rfl {} "b" rfl hroom (by decide) (by decide +kernel) "x"⟩

end Disk

end Debate.Files
