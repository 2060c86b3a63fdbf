import Debate.Configuration.Loading
import Debate.Proofs.Storing

/-!
# What a computation does to the disk, however it ends

A directory is made in many steps, and each of them may fail. What is claimed of the disk before and
after all of them is a relation that every single step keeps. Loading a configuration reads files and writes
messages, and keeps equality: so what it gives depends on the disk alone, and the parts of it give what
they would give by themselves.

* `Disk.Moves`                  a computation that keeps a relation between the disk before and after;
* `Disk.Moves.bind`             one computation after another;
* `Disk.moves_ensureDirectory`  a directory that is made with those that it lies in;
* `Disk.Reads`                  a computation that leaves the disk as it is;
* `Loading.given`               what a computation that loads gives on a disk;
* `Loading.Reads`               one that leaves the disk as it is, and gives the same whatever was told;
* `Loading.given_bind`          one computation after another.
-/

namespace Debate.Files.Disk

variable {α β : Type} {R : Disk → Disk → Prop}

/-- a computation that keeps a relation between the disk before it and the disk after it -/
def Moves (R : Disk → Disk → Prop) (x : OnDisk α) : Prop := ∀ d, R d (carriedOut x d).2

section

variable [Std.Refl R]

theorem moves_pure (a : α) : Moves R (pure a : OnDisk α) := Std.Refl.refl

theorem moves_throw (e : Fault) : Moves R (throw e : OnDisk α) := Std.Refl.refl

theorem moves_get : Moves R (get : OnDisk Disk) := Std.Refl.refl

end

theorem Moves.bind [IsTrans Disk R] {x : OnDisk α} {f : α → OnDisk β} (hx : Moves R x)
    (hf : ∀ a, Moves R (f a)) : Moves R (x >>= f) := by
  intro d
  have hfirst := hx d
  rw [carriedOut_bind]
  rcases hrun : carriedOut x d with ⟨e | a, d'⟩
  · rw [hrun] at hfirst
    exact hfirst
  · rw [hrun] at hfirst
    exact IsTrans.trans _ _ _ hfirst (hf a d')

theorem Moves.attempt {x : OnDisk α} (hx : Moves R x) : Moves R (attempt x) := hx

section

variable [Std.Refl R] [IsTrans Disk R]

theorem moves_look (p : Path) (f : Tree → Except FileError α) : Moves R (look p f) := by
  refine moves_get.bind fun d => ?_
  cases f d.tree with
  | ok x => exact moves_pure x
  | error e => exact moves_throw _

theorem moves_isDirectory (p : Path) : Moves R (isDirectory p) := by
  refine moves_get.bind fun d => ?_
  split
  · exact moves_pure true
  · exact moves_pure false

theorem moves_exists (p : Path) : Moves R («exists» p) := by
  rw [«exists»]
  split
  · exact moves_pure false
  · exact moves_look p _

theorem moves_ensureOne {p : Path} (h : Moves R (makeDirectory p)) : Moves R (ensureOne p) := by
  refine h.attempt.bind fun r => ?_
  split
  · exact moves_pure ()
  · exact moves_throw _
  · refine (moves_isDirectory p).bind fun b => ?_
    split
    · exact moves_pure ()
    · exact moves_throw _

theorem moves_ensureFrom {root : String} {names : List String}
    (h : ∀ above, above <:+ names → Moves R (makeDirectory { root, names := above.reverse })) :
    Moves R (ensureFrom root names) := by
  induction names with
  | nil => exact moves_ensureOne (h [] (List.suffix_refl _))
  | cons name above ih =>
    have hself := h (name :: above) (List.suffix_refl _)
    refine hself.attempt.bind fun r => ?_
    split
    · exact moves_pure ()
    · refine Moves.bind (ih fun above' habove => ?_) fun _ => moves_ensureOne hself
      exact h above' (habove.trans (List.suffix_cons _ _))
    · refine (moves_isDirectory _).bind fun b => ?_
      split
      · exact moves_pure ()
      · exact moves_throw _

/-- a directory that is made with those that it lies in keeps what each of them keeps -/
theorem moves_ensureDirectory {p : Path}
    (h : ∀ names, names <+: p.names → Moves R (makeDirectory { p with names })) :
    Moves R (ensureDirectory p) := by
  refine moves_ensureFrom fun above habove => h above.reverse ?_
  rw [← List.reverse_suffix, List.reverse_reverse]
  exact habove

end

/-- an elementary step keeps what it keeps where it goes well, if that is kept by the passing of an
outage, too -/
theorem moves_step {p : Path} {f : Tree → Except FileError Tree} (hrefl : ∀ d, R d d)
    (houtage : ∀ d : Disk, R d { d with outages := d.outages.tail })
    (h : ∀ (d : Disk) t', isUnspeakable p = false → f d.tree = .ok t' →
      R d { tree := t', outages := d.outages.tail }) : Moves R (step p f) := by
  intro d
  rw [carriedOut_step]
  split
  · exact hrefl d
  · rename_i hp
    split
    · exact houtage d
    · rename_i hf
      exact h d _ (Bool.eq_false_iff.mpr hp) hf
    · exact houtage d

end Debate.Files.Disk

namespace Debate

open Debate.Files

variable {α β : Type}

/-! ## computations that only read -/

namespace Files.Disk

/-- a computation that leaves the disk as it is -/
abbrev Reads (x : OnDisk α) : Prop := Moves (· = ·) x

theorem reads_lift (r : Except Fault α) : Reads (liftM r : OnDisk α) := fun d => by
  rw [carriedOut_lift]

theorem reads_read (p : Path) : Reads (read p) := by
  rw [read]
  split
  · exact moves_throw _
  · exact moves_look p _

theorem reads_readPresent (p : Path) : Reads (readPresent p) :=
  (reads_read p).bind fun _ => reads_lift _

theorem reads_readText (p : Path) : Reads (readText p) := by
  refine (moves_exists p).bind fun b => ?_
  split
  · exact reads_readPresent p
  · exact moves_pure _

theorem reads_readRecord (p : Path) : Reads (readRecord p) := by
  refine (moves_exists p).bind fun b => ?_
  split
  · refine (reads_readPresent p).bind fun s => ?_
    split
    · exact moves_pure _
    · exact moves_pure _
    · exact moves_throw _
  · exact moves_pure _

theorem reads_readRecordOr (p : Path) (default : Value) : Reads (readRecordOr p default) := by
  refine (reads_readRecord p).bind fun r => ?_
  split <;> exact moves_pure _

end Files.Disk

namespace Loading

/-- what a computation gives on a disk, when nothing was told yet -/
def given (x : Loading α) (d : Disk) : Except Fault α := (carriedOut x { disk := d }).1

/-- a computation that leaves the disk as it is, and gives the same whatever was told before -/
def Reads (x : Loading α) : Prop :=
  ∀ k, (carriedOut x k).1 = given x k.disk ∧ (carriedOut x k).2.disk = k.disk

theorem reads_ofExcept (r : Except Fault α) : Reads (ofExcept r) := fun _ => ⟨rfl, rfl⟩

theorem reads_pure (a : α) : Reads (pure a) := fun _ => ⟨rfl, rfl⟩

theorem reads_throw (e : Fault) : Reads (throw e : Loading α) := fun _ => ⟨rfl, rfl⟩

theorem reads_log (level : Level) (text : String) : Reads (log level text) := fun _ => ⟨rfl, rfl⟩

theorem reads_onDisk {m : OnDisk α} (h : Disk.Reads m) : Reads (onDisk m) := fun k =>
  ⟨rfl, (h k.disk).symm⟩

section

variable {x : Loading α} {f : α → Loading β} {d : Disk}

/-- one computation after another gives what the second gives for what the first gives, whatever was
told before -/
theorem carriedOut_bind_of_reads (hx : Reads x) (hf : ∀ a, Reads (f a)) (k : Desk) :
    (carriedOut (x >>= f) k).1 = (given x k.disk >>= fun a => given (f a) k.disk) ∧
      (carriedOut (x >>= f) k).2.disk = k.disk := by
  obtain ⟨hgiven, hdisk⟩ := hx k
  rw [carriedOut_bind]
  rcases hrun : carriedOut x k with ⟨e | a, k'⟩ <;> rw [hrun] at hgiven hdisk <;> rw [← hgiven]
  · exact ⟨rfl, hdisk⟩
  · obtain ⟨hgiven', hdisk'⟩ := hf a k'
    rw [hdisk] at hgiven' hdisk'
    exact ⟨hgiven', hdisk'⟩

theorem given_bind (hx : Reads x) (hf : ∀ a, Reads (f a)) (d : Disk) :
    given (x >>= f) d = given x d >>= fun a => given (f a) d :=
  (carriedOut_bind_of_reads hx hf { disk := d }).1

theorem Reads.bind (hx : Reads x) (hf : ∀ a, Reads (f a)) : Reads (x >>= f) := fun k => by
  rw [given_bind hx hf]
  exact carriedOut_bind_of_reads hx hf k

theorem given_ofExcept_bind (r : Except Fault α) (hf : ∀ a, Reads (f a)) (d : Disk) :
    given (ofExcept r >>= f) d = r >>= fun a => given (f a) d :=
  given_bind (reads_ofExcept r) hf d

theorem given_onDisk (m : OnDisk α) (d : Disk) : given (onDisk m) d = (carriedOut m d).1 := rfl

end

/-! ## values in files -/

/-- messages, one after the other -/
theorem reads_warnings (ws : List String) :
    let told : Loading PUnit := forIn ws PUnit.unit fun w _ => do
      log .warning w
      pure (ForInStep.yield PUnit.unit)
    Reads told ∧ ∀ d, given told d = .ok PUnit.unit := by
  induction ws with
  | nil => exact ⟨reads_pure _, fun _ => rfl⟩
  | cons w ws ih =>
    have hstep : Reads (do log .warning w; pure (ForInStep.yield PUnit.unit)) :=
      (reads_log .warning w).bind fun _ => reads_pure _
    dsimp only at ih ⊢
    rw [List.forIn_cons]
    refine ⟨hstep.bind ?_, fun d => (given_bind hstep ?_ d).trans (ih.2 d)⟩
    · rintro (b | b)
      · exact reads_pure b
      · exact ih.1
    · rintro (b | b)
      · exact reads_pure b
      · exact ih.1

theorem reads_readRecordOr (p : Path) (default : Value) : Reads (readRecordOr p default) :=
  (reads_onDisk (Disk.reads_readRecordOr p default)).bind fun r =>
    (reads_warnings r.2).1.bind fun _ => reads_pure _

end Loading

end Debate
