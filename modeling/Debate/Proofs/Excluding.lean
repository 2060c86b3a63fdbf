import Debate.Files.Lock
import Debate.Proofs.Widening

/-!
# One holder at a time

Everybody has a directory and asks for its lock, or lets go of it; two directories at one place have
one lock. Each call is one step. Through all of them a place, the file that stands there, whoever has
it open and whoever has locked it stay linked: the file of a lock is there exactly while somebody
holds the lock, and that one has locked this very file.

* `Locks.IsLinked`            files, whoever opened them and whoever locked them fit together;
* `Locks.acquire_of_owner`, `Locks.acquire_of_none`   an attempt to lock the file at a place then;
* `Locking`                   locks with the disk that their files are on;
* `Locking.after`             what is left after some calls;
* `Locking.isLinked_after`    the link is kept by every call;
* `Locking.Excludes`          what a lock is there for;
* `Locking.excludes_after`    it does that after any calls.
-/

namespace Debate.Files

namespace Locks

section

variable {α β : Type} [DecidableEq α]

theorem set_set (f : α → β) (a : α) (b c : β) : set (set f a b) a c = set f a c := by
  funext x
  by_cases hx : x = a
  · rw [hx, set_self, set_self]
  · rw [set_of_ne _ _ hx, set_of_ne _ _ hx, set_of_ne _ _ hx]

theorem set_eq_self {f : α → β} {a : α} {b : β} (h : f a = b) : set f a b = f := by
  funext x
  by_cases hx : x = a
  · rw [hx, set_self, h]
  · rw [set_of_ne _ _ hx]

theorem set_eq_some {f : α → Option β} {a x : α} {b : Option β} {c : β} (h : set f a b x = some c) :
    x = a ∧ b = some c ∨ x ≠ a ∧ f x = some c := by
  by_cases hx : x = a
  · rw [hx, set_self] at h
    exact Or.inl ⟨hx, h⟩
  · rw [set_of_ne _ _ hx] at h
    exact Or.inr ⟨hx, h⟩

theorem of_set_none {f : α → Option β} {a x : α} {c : β} (h : set f a none x = some c) :
    x ≠ a ∧ f x = some c :=
  (set_eq_some h).resolve_left fun hnone => nomatch hnone.2

end

variable {l : Locks} {place : String → Place} {who x : String} {file : Nat}

theorem holds_iff : l.holds who = true ↔ ∃ file, l.opened who = some file := Option.isSome_iff_exists

/-- files, whoever opened them and whoever locked them fit together, when everybody asks for the file
at one place: no file is at two places, each of them is locked, whoever locked one has it open, and
whoever has one open has locked it, and it is the one at the place that is asked for -/
structure IsLinked (l : Locks) (place : String → Place) : Prop where
  made : ∀ {p file}, l.fileAt p = some file → file < l.made
  apart : ∀ {p q file}, l.fileAt p = some file → l.fileAt q = some file → p = q
  locked : ∀ {p file}, l.fileAt p = some file → ∃ who, l.owner file = some who
  open_of_owner : ∀ {who file}, l.owner file = some who → l.opened who = some file
  owner_of_open : ∀ {who file}, l.opened who = some file → l.owner file = some who
  fileAt_of_open : ∀ {who file}, l.opened who = some file → l.fileAt (place who) = some file

theorem isLinked_empty (place : String → Place) : IsLinked {} place where
  made h := by cases h
  apart h := by cases h
  locked h := by cases h
  open_of_owner h := by cases h
  owner_of_open h := by cases h
  fileAt_of_open h := by cases h

namespace IsLinked

/-- whoever holds a lock has locked the file at his place -/
theorem holds_iff (h : l.IsLinked place) :
    l.holds who = true ↔ ∃ file, l.fileAt (place who) = some file ∧ l.owner file = some who := by
  rw [Locks.holds_iff]
  constructor
  · rintro ⟨file, hopen⟩
    exact ⟨file, h.fileAt_of_open hopen, h.owner_of_open hopen⟩
  · rintro ⟨file, -, howner⟩
    exact ⟨file, h.open_of_owner howner⟩

theorem holds_of_fileAt (h : l.IsLinked place) {p : Place} (hp : l.fileAt p = some file) :
    ∃ x, l.owner file = some x ∧ l.holds x = true ∧ place x = p := by
  obtain ⟨x, hx⟩ := h.locked hp
  have hopen := h.open_of_owner hx
  exact ⟨x, hx, Locks.holds_iff.mpr ⟨file, hopen⟩, h.apart (h.fileAt_of_open hopen) hp⟩

/-- two who hold the lock at one place are the same -/
theorem eq_of_holds (h : l.IsLinked place) (hwho : l.holds who = true) (hx : l.holds x = true)
    (hplace : place who = place x) : who = x := by
  obtain ⟨file, hfile, howner⟩ := h.holds_iff.mp hwho
  obtain ⟨file', hfile', howner'⟩ := h.holds_iff.mp hx
  rw [hplace, hfile', Option.some.injEq] at hfile
  rw [← hfile, howner', Option.some.injEq] at howner
  exact howner.symm

/-- where no file is at his place, somebody has none open -/
theorem opened_of_none (h : l.IsLinked place) (hfile : l.fileAt (place who) = none) :
    l.opened who = none := by
  rw [Option.eq_none_iff_forall_ne_some]
  intro file hopen
  rw [h.fileAt_of_open hopen] at hfile
  cases hfile

end IsLinked

/-! ## attempts -/

/-- where a file is at the place, whoever has locked it gets it anew, and nobody else does -/
theorem acquire_of_owner (h : l.IsLinked place) (hfile : l.fileAt (place who) = some file)
    (howner : l.owner file = some x) : l.acquire (place who) who = (decide (x = who), l) := by
  by_cases hx : x = who
  · subst hx
    have hopen := h.open_of_owner howner
    simp only [acquire, openFile, hfile, close, hopen, if_pos howner, set_self, set_set,
      set_eq_self hopen, set_eq_self howner, decide_true]
  · have hopen : l.opened who = none := by
      rw [Option.eq_none_iff_forall_ne_some]
      intro file' hopen
      have hsame := h.fileAt_of_open hopen
      rw [hfile, Option.some.injEq] at hsame
      rw [hsame, h.owner_of_open hopen, Option.some.injEq] at howner
      exact hx howner.symm
    simp only [acquire, openFile, hfile, close, hopen, howner, decide_eq_false hx]

/-- the locks with one more file, which somebody has locked -/
def withNew (l : Locks) (place : Place) (who : String) : Locks where
  fileAt := set l.fileAt place (some l.made)
  opened := set l.opened who (some l.made)
  owner := set l.owner l.made (some who)
  made := l.made + 1

/-- where no file is at the place, a new one is made and locked -/
theorem acquire_of_none (h : l.IsLinked place) (hfile : l.fileAt (place who) = none) :
    l.acquire (place who) who = (true, l.withNew (place who) who) := by
  have howner : l.owner l.made = none := by
    rw [Option.eq_none_iff_forall_ne_some]
    intro x hx
    exact Nat.lt_irrefl _ (h.made (h.fileAt_of_open (h.open_of_owner hx)))
  simp only [acquire, openFile, hfile, close, h.opened_of_none hfile, howner, withNew]

theorem IsLinked.withNew (h : l.IsLinked place) (hfile : l.fileAt (place who) = none) :
    (l.withNew (place who) who).IsLinked place := by
  have hold {p : Place} {file : Nat} (hp : l.fileAt p = some file) : file ≠ l.made := (h.made hp).ne
  refine ⟨fun {p file} hp => ?_, fun {p q file} hp hq => ?_, fun {p file} hp => ?_,
    fun {x file} hx => ?_, fun {x file} hx => ?_, fun {x file} hx => ?_⟩
  · rcases set_eq_some hp with ⟨-, heq⟩ | ⟨-, hp⟩
    · obtain rfl := Option.some.inj heq
      exact Nat.lt_succ_self _
    · exact (h.made hp).trans (Nat.lt_succ_self _)
  · -- the new file is at its place only
    rcases set_eq_some hp with ⟨rfl, heq⟩ | ⟨-, hp⟩ <;> rcases set_eq_some hq with ⟨rfl, heq'⟩ | ⟨-, hq⟩
    · rfl
    · exact absurd (Option.some.inj heq).symm (hold hq)
    · exact absurd (Option.some.inj heq').symm (hold hp)
    · exact h.apart hp hq
  · rcases set_eq_some hp with ⟨-, heq⟩ | ⟨-, hp⟩
    · obtain rfl := Option.some.inj heq
      exact ⟨who, set_self _ _ _⟩
    · obtain ⟨x, hx⟩ := h.locked hp
      exact ⟨x, (set_of_ne _ _ (hold hp)).trans hx⟩
  · rcases set_eq_some hx with ⟨rfl, heq⟩ | ⟨-, hx⟩
    · obtain rfl := Option.some.inj heq
      exact set_self _ _ _
    · have hopen := h.open_of_owner hx
      have hne : x ≠ who := by
        rintro rfl
        rw [h.opened_of_none hfile] at hopen
        cases hopen
      exact (set_of_ne _ _ hne).trans hopen
  · rcases set_eq_some hx with ⟨rfl, heq⟩ | ⟨-, hx⟩
    · obtain rfl := Option.some.inj heq
      exact set_self _ _ _
    · exact (set_of_ne _ _ (hold (h.fileAt_of_open hx))).trans (h.owner_of_open hx)
  · rcases set_eq_some hx with ⟨rfl, heq⟩ | ⟨-, hx⟩
    · rw [← heq]
      exact set_self _ _ _
    · have hplace := h.fileAt_of_open hx
      have hne : place x ≠ place who := by
        intro heq
        rw [heq, hfile] at hplace
        cases hplace
      exact (set_of_ne _ _ hne).trans hplace

/-! ## letting go -/

/-- the locks without a file that somebody had locked -/
def without (l : Locks) (place : Place) (who : String) (file : Nat) : Locks where
  fileAt := set l.fileAt place none
  opened := set l.opened who none
  owner := set l.owner file none
  made := l.made

theorem release_of_open (h : l.IsLinked place) (hopen : l.opened who = some file) :
    l.release (place who) who = l.without (place who) who file := by
  have hholds : l.holds who = true := Locks.holds_iff.mpr ⟨file, hopen⟩
  simp only [release, hholds, if_true, close, hopen, if_pos (h.owner_of_open hopen), without]

theorem IsLinked.without (h : l.IsLinked place) (hopen : l.opened who = some file) :
    (l.without (place who) who file).IsLinked place := by
  have howner := h.owner_of_open hopen
  have hself {x : String} (hx : l.owner file = some x) : x = who :=
    Option.some.inj (hx.symm.trans howner)
  refine ⟨fun {p file'} hset => ?_, fun {p q file'} hset hset' => ?_,
    fun {p file'} hset => ?_, fun {x file'} hset => ?_, fun {x file'} hset => ?_,
    fun {x file'} hset => ?_⟩
  · obtain ⟨-, hp⟩ := of_set_none hset
    exact h.made hp
  · obtain ⟨-, hp⟩ := of_set_none hset
    obtain ⟨-, hq⟩ := of_set_none hset'
    exact h.apart hp hq
  · obtain ⟨hne, hp⟩ := of_set_none hset
    obtain ⟨x, hx⟩ := h.locked hp
    have hfile : file' ≠ file := by
      rintro rfl
      exact hne (h.apart hp (h.fileAt_of_open hopen))
    exact ⟨x, (set_of_ne _ _ hfile).trans hx⟩
  · obtain ⟨hne, hx⟩ := of_set_none hset
    have hopen' := h.open_of_owner hx
    have hwho : x ≠ who := by
      rintro rfl
      rw [hopen, Option.some.injEq] at hopen'
      exact hne hopen'.symm
    exact (set_of_ne _ _ hwho).trans hopen'
  · obtain ⟨hne, hx⟩ := of_set_none hset
    have howner' := h.owner_of_open hx
    have hfile : file' ≠ file := by
      rintro rfl
      exact hne (hself howner')
    exact (set_of_ne _ _ hfile).trans howner'
  · obtain ⟨hne, hx⟩ := of_set_none hset
    have hplace := h.fileAt_of_open hx
    have hother : place x ≠ place who := by
      intro heq
      rw [heq, h.fileAt_of_open hopen, Option.some.injEq] at hplace
      exact hne (hself (hplace ▸ h.owner_of_open hx))
    exact (set_of_ne _ _ hother).trans hplace

end Locks

/-! ## locks on a disk -/

/-- bytes can be added to a file if its path can be handed to a disk and leads to a place where no
directory is; otherwise nothing changes -/
theorem Disk.append_cases (t : Tree) (p : Path) (new : List UInt8) :
    (∃ bytes, (isUnspeakable p = false ∧ t.resolve p = .ok p.place ∧ t.isDirectory p.place = false) ∧
      carriedOut (append p new) { tree := t } = (.ok (), { tree := t.put p.place (.file bytes) })) ∨
    (∃ e, carriedOut (append p new) { tree := t } = (.error e, { tree := t })) ∧
      ¬ (isUnspeakable p = false ∧ t.resolve p = .ok p.place ∧ t.isDirectory p.place = false) := by
  cases hp : isUnspeakable p with
  | true =>
    refine Or.inr ⟨⟨unspeakable, ?_⟩, fun h => nomatch h.1⟩
    rw [append, carriedOut_step, hp, if_pos rfl]
  | false =>
    cases hr : t.resolve p with
    | error e =>
      refine Or.inr ⟨⟨faultAt p e, carriedOut_step_error hp ?_⟩, fun h => nomatch h.2.1⟩
      simp only [hr, bind, Except.bind]
    | ok place =>
      obtain rfl := Tree.place_of_resolve hr
      rcases hn : t.get? p.place with _ | old | b
      · refine Or.inl ⟨new, ⟨rfl, rfl, by rw [Tree.isDirectory, hn]⟩, carriedOut_step_ok hp ?_⟩
        simp only [hr, bind, Except.bind, hn]
      · refine Or.inl ⟨old ++ new, ⟨rfl, rfl, by rw [Tree.isDirectory, hn]⟩, carriedOut_step_ok hp ?_⟩
        simp only [hr, bind, Except.bind, hn]
      · have hdirectory := Tree.isDirectory_of_get? hn
        refine Or.inr ⟨⟨faultAt p .isDirectory, carriedOut_step_error hp ?_⟩,
          fun h => nomatch hdirectory.symm.trans h.2.2⟩
        simp only [hr, bind, Except.bind, hn]

/-- locks with the disk that their files are on -/
structure Locking where
  locks : Locks := {}
  disk : Disk := {}

/-- something that somebody asks of his lock -/
inductive Locking.Call where
  | acquire (who : String)
  | release (who : String)
  deriving DecidableEq, Repr

/-- the place of the lock of somebody's directory -/
def lockPlace (home : String → Path) (who : String) : Place := (lockPath (home who)).place

theorem lockPlace_eq (home : String → Path) (who : String) :
    lockPlace home who = (home who).place ++ ["orchestrator.lock"] :=
  (home who).place_child (by decide)

theorem lockPlace_eq_iff {home : String → Path} {who x : String} :
    lockPlace home who = lockPlace home x ↔ (home who).place = (home x).place := by
  rw [lockPlace_eq, lockPlace_eq, List.append_cancel_right_eq]

theorem Disk.carriedOut_resolve {t : Tree} {p : Path} {place : Place}
    (hr : t.resolve p = .ok place) :
    carriedOut (look p fun t => t.resolve p) { tree := t } = (.ok place, { tree := t }) := by
  rw [look, carriedOut_bind_ok (carriedOut_get _)]
  simp only [hr]
  rfl

/-- the lock of everybody's directory can be had: the directory can be made, no directory is where the
file of the lock goes, and the way to no other directory leads by it -/
structure Tree.Offers (t : Tree) (home : String → Path) : Prop where
  admits : ∀ who, t.Admits (home who)
  noDirectory : ∀ who, t.isDirectory (lockPlace home who) = false
  apart : ∀ who x, lockPlace home who ∉ (home x).way

namespace Locking

variable {home : String → Path} {s : Locking} {who x : String}

/-- whether somebody holds the lock of his directory -/
def holds (s : Locking) (who : String) : Bool := s.locks.holds who

/-- an attempt to get the lock of somebody's directory, and what is left; a fault leaves the locks as
they were -/
def acquire (home : String → Path) (who : String) (s : Locking) : Except Fault Bool × Locking :=
  match carriedOut (Disk.acquireLock s.locks (home who) who) s.disk with
  | (.ok (got, locks), disk) => (.ok got, { locks, disk })
  | (.error e, disk) => (.error e, { s with disk })

/-- the lock of somebody's directory is let go, and what is left -/
def release (home : String → Path) (who : String) (s : Locking) : Except Fault Unit × Locking :=
  match carriedOut (Disk.releaseLock s.locks (home who) who) s.disk with
  | (.ok locks, disk) => (.ok (), { locks, disk })
  | (.error e, disk) => (.error e, { s with disk })

/-- what a call leaves -/
def step (home : String → Path) (s : Locking) : Call → Locking
  | .acquire who => (s.acquire home who).2
  | .release who => (s.release home who).2

/-- what some calls leave, one after the other -/
def after (home : String → Path) (s : Locking) (calls : List Call) : Locking :=
  calls.foldl (step home) s

/-- the locks and the files fit together: the file of a lock is there if it is known to be, and whoever
holds a lock can reach its file -/
structure IsLinked (home : String → Path) (s : Locking) : Prop where
  calm : s.disk.outages = []
  locks : s.locks.IsLinked (lockPlace home)
  isFile : ∀ who, s.disk.tree.isFile (lockPlace home who) =
    (s.locks.fileAt (lockPlace home who)).isSome
  reaches : ∀ {who}, s.holds who = true → Disk.isUnspeakable (lockPath (home who)) = false ∧
    s.disk.tree.resolve (lockPath (home who)) = .ok (lockPlace home who)

theorem isLinked_start {t : Tree} (hfree : ∀ who, t.isFile (lockPlace home who) = false) :
    IsLinked home { disk := { tree := t } } where
  calm := rfl
  locks := Locks.isLinked_empty _
  isFile := hfree
  reaches h := by cases h

namespace IsLinked

/-- all the files of locks are on the disk -/
theorem within_eq (h : s.IsLinked home) {t : Tree}
    (hfile : ∀ p, s.disk.tree.isFile p = true → t.isFile p = true) : s.locks.within t = s.locks := by
  have hfiles : (fun p => if t.isFile p then s.locks.fileAt p else none) = s.locks.fileAt := by
    funext p
    cases hp : s.locks.fileAt p with
    | none => rw [ite_self]
    | some file =>
      obtain ⟨x, -, -, rfl⟩ := h.locks.holds_of_fileAt hp
      rw [if_pos (hfile _ ((h.isFile x).trans (by rw [hp]; rfl)))]
  rw [Locks.within, hfiles]

/-- the file of a lock is there exactly while somebody holds the lock -/
theorem isFile_iff (h : s.IsLinked home) :
    s.disk.tree.isFile (lockPlace home who) = true ↔
      ∃ x, (home x).place = (home who).place ∧ s.holds x = true := by
  rw [h.isFile, Option.isSome_iff_exists]
  constructor
  · rintro ⟨file, hfile⟩
    obtain ⟨x, -, hx, hplace⟩ := h.locks.holds_of_fileAt hfile
    exact ⟨x, lockPlace_eq_iff.mp hplace, hx⟩
  · rintro ⟨x, hplace, hx⟩
    obtain ⟨file, hfile, -⟩ := h.locks.holds_iff.mp hx
    exact ⟨file, by rwa [lockPlace_eq_iff.mpr hplace] at hfile⟩

end IsLinked

/-! ## one call -/

/-- once a directory is made, its lock can be reached, if it can be had -/
theorem resolve_of_offers {t t' : Tree} {b : Bool} (h : t.Offers home) (who : String)
    (hwidens : t.Widens (home who).way t') (hstat : t'.stat (home who) = .ok (.directory b)) :
    Disk.isUnspeakable (lockPath (home who)) = false ∧
      t'.resolve (lockPath (home who)) = .ok (lockPlace home who) ∧
      t'.isDirectory (lockPlace home who) = false := by
  obtain ⟨place, hr, hplace⟩ := Tree.stat_eq_ok_iff.mp hstat
  obtain rfl := Tree.place_of_resolve hr
  refine ⟨Disk.isUnspeakable_child.mpr ⟨(h.admits who).isSpeakable, by decide⟩, ?_, ?_⟩
  · rw [lockPlace_eq]
    exact Tree.resolve_child hr (Tree.isDirectory_of_get? hplace) (by decide) (by decide)
  · rw [hwidens.isDirectory (h.apart who who)]
    exact h.noDirectory who

/-- what an attempt does to the disk: directories are made on the way to the lock, and its file is
opened, and locked if it can be; unless a fault ends it, which happens only where not every lock can be
had -/
theorem acquire_cases (h : s.IsLinked home) (who : String) :
    ∃ t : Tree, s.disk.tree.Widens (home who).way t ∧
      ((∃ bytes, (Disk.isUnspeakable (lockPath (home who)) = false ∧
          t.resolve (lockPath (home who)) = .ok (lockPlace home who) ∧
          t.isDirectory (lockPlace home who) = false) ∧
          s.acquire home who = (.ok (s.locks.acquire (lockPlace home who) who).1,
            { locks := (s.locks.acquire (lockPlace home who) who).2,
              disk := { tree := t.put (lockPlace home who) (.file bytes) } })) ∨
        (∃ e, s.acquire home who = (.error e, { s with disk := { tree := t } })) ∧
          ¬ s.disk.tree.Offers home) := by
  obtain ⟨locks, ⟨tree, outages⟩⟩ := s
  obtain rfl : outages = [] := h.calm
  obtain ⟨hwidens, houtages⟩ := Disk.widens_ensureDirectory (home who) { tree }
  rcases hmake : carriedOut (Disk.ensureDirectory (home who)) { tree } with ⟨r, ⟨t, outages⟩⟩
  rw [hmake] at hwidens houtages
  obtain rfl : outages = [] := houtages rfl
  refine ⟨t, hwidens, ?_⟩
  cases r with
  | error e =>
    refine Or.inr ⟨⟨e, ?_⟩, fun hoffers => ?_⟩
    · have hrun := carriedOut_bind_error hmake fun _ => do
        let l := locks.within (← get).tree
        Disk.append (lockPath (home who)) []
        let place ← Disk.look (lockPath (home who)) fun t => t.resolve (lockPath (home who))
        return l.acquire place who
      rw [acquire, Disk.acquireLock, hrun]
    · obtain ⟨t', b, hmade, -⟩ := Disk.exists_ensureDirectory (hoffers.admits who)
      rw [hmake] at hmade
      cases hmade
  | ok u =>
    have hwithin : locks.within t = locks := h.within_eq fun p hp => (hwidens.isFile p).trans hp
    have hrun : carriedOut (Disk.acquireLock locks (home who) who) { tree } =
        carriedOut (do
          Disk.append (lockPath (home who)) []
          let place ← Disk.look (lockPath (home who)) fun t => t.resolve (lockPath (home who))
          return locks.acquire place who) { tree := t } := by
      rw [Disk.acquireLock, carriedOut_bind_ok hmake, carriedOut_bind_ok (carriedOut_get _)]
      dsimp only
      rw [hwithin]
    rcases Disk.append_cases t (lockPath (home who)) [] with
      ⟨bytes, hreached, happend⟩ | ⟨⟨e, happend⟩, hnot⟩
    · refine Or.inl ⟨bytes, hreached, ?_⟩
      obtain ⟨-, hr, hdirectory⟩ := hreached
      have hlook := Disk.carriedOut_resolve
        (Tree.resolve_mono (Tree.extends_put hdirectory (.file bytes)) hr)
      rw [acquire, hrun, carriedOut_bind_ok happend, carriedOut_bind_ok hlook]
      rfl
    · refine Or.inr ⟨⟨e, ?_⟩, fun hoffers => hnot ?_⟩
      · rw [acquire, hrun, carriedOut_bind_error happend]
      · obtain ⟨t', b, hmade, hstat⟩ := Disk.exists_ensureDirectory (hoffers.admits who)
        rw [hmake] at hmade
        cases hmade
        exact resolve_of_offers hoffers who hwidens hstat

/-- letting go of a lock that somebody holds takes its file away -/
theorem release_of_holds (h : s.IsLinked home) {file : Nat} (hopen : s.locks.opened who = some file) :
    s.release home who = (.ok (),
      { locks := s.locks.without (lockPlace home who) who file,
        disk := { tree := s.disk.tree.remove (lockPlace home who) } }) := by
  have hholds : s.locks.holds who = true := Locks.holds_iff.mpr ⟨file, hopen⟩
  obtain ⟨hspeakable, hr⟩ := h.reaches hholds
  have hthere := h.isFile_iff.mpr ⟨who, rfl, hholds⟩
  obtain ⟨locks, ⟨tree, outages⟩⟩ := s
  obtain rfl : outages = [] := h.calm
  obtain ⟨bytes, hbytes⟩ := Tree.exists_of_isFile hthere
  have hexists := Disk.carriedOut_exists (d := { tree }) hspeakable
    (Tree.stat_eq_ok_iff.mpr ⟨_, hr, hbytes⟩)
  have hremove : carriedOut (Disk.remove (lockPath (home who))) { tree } =
      (.ok (), { tree := tree.remove (lockPlace home who) }) :=
    Disk.carriedOut_step_ok hspeakable (by simp only [hr, bind, Except.bind, hbytes])
  have hrun : carriedOut (Disk.releaseLock locks (home who) who) { tree } =
      (.ok (locks.release (lockPlace home who) who), { tree := tree.remove (lockPlace home who) }) := by
    rw [Disk.releaseLock, hholds, if_pos rfl, carriedOut_bind_ok hexists, if_pos rfl,
      carriedOut_bind_ok (Disk.carriedOut_resolve hr), carriedOut_bind_ok hremove]
    rfl
  rw [release, hrun, Locks.release_of_open h.locks hopen]

/-- letting go of a lock that somebody does not hold changes nothing -/
theorem release_of_not_holds (hholds : s.holds who = false) :
    s.release home who = (.ok (), s) := by
  have hrun : carriedOut (Disk.releaseLock s.locks (home who) who) s.disk = (.ok s.locks, s.disk) := by
    rw [Disk.releaseLock, show s.locks.holds who = false from hholds, if_neg Bool.false_ne_true]
    rfl
  rw [release, hrun]

/-! ## all calls -/

theorem isFile_eq_isSome {files : Place → Option Nat} {p q : Place} {b : Bool} (new : Option Nat)
    (h : b = (files q).isSome) : (if q = p then new.isSome else b) = (Locks.set files p new q).isSome := by
  by_cases hq : q = p
  · rw [if_pos hq, hq, Locks.set_self]
  · rw [if_neg hq, Locks.set_of_ne _ _ hq, h]

theorem isLinked_acquire (h : s.IsLinked home) (who : String) :
    (s.acquire home who).2.IsLinked home := by
  obtain ⟨t, hwidens, hcases⟩ := acquire_cases h who
  have hfiles (x : String) : t.isFile (lockPlace home x) =
      (s.locks.fileAt (lockPlace home x)).isSome := (hwidens.isFile _).trans (h.isFile x)
  have hreaches {x : String} (hx : s.holds x = true) :
      Disk.isUnspeakable (lockPath (home x)) = false ∧
        t.resolve (lockPath (home x)) = .ok (lockPlace home x) :=
    (h.reaches hx).imp_right (Tree.resolve_mono hwidens.extends)
  rcases hcases with ⟨bytes, ⟨hspeakable, hr, hdirectory⟩, heq⟩ | ⟨⟨e, heq⟩, -⟩
  · have hmono {x : String} (hx : Disk.isUnspeakable (lockPath (home x)) = false ∧
        t.resolve (lockPath (home x)) = .ok (lockPlace home x)) :=
      hx.imp_right (Tree.resolve_mono (Tree.extends_put hdirectory (.file bytes)))
    rw [heq]
    cases hfile : s.locks.fileAt (lockPlace home who) with
    | none =>
      rw [Locks.acquire_of_none h.locks hfile]
      refine ⟨rfl, h.locks.withNew hfile, fun x => ?_, fun {x} hx => hmono ?_⟩
      · exact (Tree.isFile_put hdirectory bytes _).trans
          (isFile_eq_isSome (some s.locks.made) (hfiles x))
      · obtain ⟨file, hopen⟩ := Locks.holds_iff.mp hx
        rcases Locks.set_eq_some hopen with ⟨rfl, -⟩ | ⟨-, hopen⟩
        · exact ⟨hspeakable, hr⟩
        · exact hreaches (Locks.holds_iff.mpr ⟨file, hopen⟩)
    | some file =>
      obtain ⟨x, howner⟩ := h.locks.locked hfile
      rw [Locks.acquire_of_owner h.locks hfile howner]
      refine ⟨rfl, h.locks, fun x => ?_, fun hx => hmono (hreaches hx)⟩
      refine (Tree.isFile_put hdirectory bytes _).trans ?_
      rw [hfiles]
      split
      · rename_i hplace
        rw [hplace, hfile]
        rfl
      · rfl
  · rw [heq]
    exact ⟨rfl, h.locks, hfiles, hreaches⟩

theorem isLinked_release (h : s.IsLinked home) (who : String) :
    (s.release home who).2.IsLinked home := by
  cases hopen : s.locks.opened who with
  | none =>
    rw [release_of_not_holds (by rw [holds, Locks.holds, hopen]; rfl)]
    exact h
  | some file =>
    have hholds : s.locks.holds who = true := Locks.holds_iff.mpr ⟨file, hopen⟩
    obtain ⟨bytes, hbytes⟩ := Tree.exists_of_isFile (h.isFile_iff.mpr ⟨who, rfl, hholds⟩)
    have hdirectory : s.disk.tree.isDirectory (lockPlace home who) = false := by
      rw [Tree.isDirectory, hbytes]
    rw [release_of_holds h hopen]
    refine ⟨rfl, h.locks.without hopen, fun x => ?_, fun {x} hx => ?_⟩
    · exact (Tree.isFile_remove _ _).trans (isFile_eq_isSome none (h.isFile x))
    · obtain ⟨file', hopen'⟩ := Locks.holds_iff.mp hx
      obtain ⟨-, hopen'⟩ := Locks.of_set_none hopen'
      exact (h.reaches (Locks.holds_iff.mpr ⟨file', hopen'⟩)).imp_right
        (Tree.resolve_mono (Tree.extends_remove hdirectory))

theorem isLinked_step (h : s.IsLinked home) (call : Call) : (s.step home call).IsLinked home := by
  cases call with
  | acquire who => exact isLinked_acquire h who
  | release who => exact isLinked_release h who

theorem isLinked_after (h : s.IsLinked home) (calls : List Call) : (s.after home calls).IsLinked home := by
  induction calls generalizing s with
  | nil => exact h
  | cons call calls ih => exact ih (isLinked_step h call)

/-! ## where every lock can be had -/

theorem offers_acquire (h : s.IsLinked home) (hoffers : s.disk.tree.Offers home) (who : String) :
    (s.acquire home who).2.disk.tree.Offers home := by
  obtain ⟨t, hwidens, ⟨bytes, ⟨-, -, hdirectory⟩, heq⟩ | ⟨-, hnot⟩⟩ := acquire_cases h who
  · rw [heq]
    refine ⟨fun x => ?_, fun x => ?_, hoffers.apart⟩
    · refine { (hoffers.admits x).widens hwidens with clear := fun q hq => ?_ }
      have hne : q ≠ lockPlace home who := fun hlock => hoffers.apart who x (hlock ▸ hq)
      rw [Tree.isFile_put hdirectory, if_neg hne, hwidens.isFile]
      exact (hoffers.admits x).clear q hq
    · refine Tree.isDirectory_put_file _ _ ?_
      rw [hwidens.isDirectory (hoffers.apart x who)]
      exact hoffers.noDirectory x
  · exact absurd hoffers hnot

theorem offers_release (h : s.IsLinked home) (hoffers : s.disk.tree.Offers home) (who : String) :
    (s.release home who).2.disk.tree.Offers home := by
  cases hopen : s.locks.opened who with
  | none =>
    rw [release_of_not_holds (by rw [holds, Locks.holds, hopen]; rfl)]
    exact hoffers
  | some file =>
    rw [release_of_holds h hopen]
    refine ⟨fun x => ?_, fun x => Tree.isDirectory_remove (hoffers.noDirectory x), hoffers.apart⟩
    refine { hoffers.admits x with clear := fun q hq => ?_ }
    rw [Tree.isFile_remove, (hoffers.admits x).clear q hq, ite_self]

theorem offers_after (h : s.IsLinked home) (hoffers : s.disk.tree.Offers home) (calls : List Call) :
    (s.after home calls).disk.tree.Offers home := by
  induction calls generalizing s with
  | nil => exact hoffers
  | cons call calls ih =>
    refine ih (isLinked_step h call) ?_
    cases call with
    | acquire who => exact offers_acquire h hoffers who
    | release who => exact offers_release h hoffers who

/-! ## what a lock is there for -/

/-- a lock excludes: one at most holds it at a place, and his file is there meanwhile; an attempt gets
it unless another holds it, and changes no lock if it does not; whoever lets go of it no longer holds
it, and nobody else lets go of anything -/
structure Excludes (home : String → Path) (s : Locking) : Prop where
  /-- whoever holds a lock has locked the file that is at its place -/
  locked : ∀ who, s.holds who = true ↔
    ∃ file, s.locks.fileAt (lockPlace home who) = some file ∧ s.locks.owner file = some who
  single : ∀ who x, s.holds who = true → s.holds x = true →
    (home who).place = (home x).place → who = x
  present : ∀ who, s.disk.tree.isFile (lockPlace home who) = true ↔
    ∃ x, (home x).place = (home who).place ∧ s.holds x = true
  answer : ∀ who got, (s.acquire home who).1 = .ok got →
    (got = true ↔ ¬ ∃ x, x ≠ who ∧ (home x).place = (home who).place ∧ s.holds x = true)
  gets : ∀ who, (s.acquire home who).1 = .ok true →
    ∀ x, (s.acquire home who).2.holds x = true ↔ x = who ∨ s.holds x = true
  refused : ∀ who, (s.acquire home who).1 ≠ .ok true → (s.acquire home who).2.locks = s.locks
  releases : ∀ who, (s.release home who).1 = .ok () ∧
    ∀ x, (s.release home who).2.holds x = true ↔ x ≠ who ∧ s.holds x = true
  spares : ∀ who, s.holds who = false → s.release home who = (.ok (), s)

/-- an attempt ends in a fault, or gets a new file, or finds a file that somebody has locked -/
theorem acquire_outcome (h : s.IsLinked home) (who : String) :
    ((∃ e, (s.acquire home who).1 = .error e) ∧ (s.acquire home who).2.locks = s.locks) ∨
      (s.locks.fileAt (lockPlace home who) = none ∧ (s.acquire home who).1 = .ok true ∧
        (s.acquire home who).2.locks = s.locks.withNew (lockPlace home who) who) ∨
      ∃ x, (home x).place = (home who).place ∧ s.holds x = true ∧
        (s.acquire home who).1 = .ok (decide (x = who)) ∧
        (s.acquire home who).2.locks = s.locks := by
  obtain ⟨t, -, ⟨bytes, -, heq⟩ | ⟨⟨e, heq⟩, -⟩⟩ := acquire_cases h who
  · rw [heq]
    cases hfile : s.locks.fileAt (lockPlace home who) with
    | none =>
      rw [Locks.acquire_of_none h.locks hfile]
      exact Or.inr (Or.inl ⟨rfl, rfl, rfl⟩)
    | some file =>
      obtain ⟨x, howner, hx, hplace⟩ := h.locks.holds_of_fileAt hfile
      rw [Locks.acquire_of_owner h.locks hfile howner]
      exact Or.inr (Or.inr ⟨x, lockPlace_eq_iff.mp hplace, hx, rfl, rfl⟩)
  · rw [heq]
    exact Or.inl ⟨⟨e, rfl⟩, rfl⟩

theorem IsLinked.single (h : s.IsLinked home) (hwho : s.holds who = true) (hx : s.holds x = true)
    (hplace : (home who).place = (home x).place) : who = x :=
  h.locks.eq_of_holds hwho hx (lockPlace_eq_iff.mpr hplace)

theorem IsLinked.answer (h : s.IsLinked home) {got : Bool}
    (hgot : (s.acquire home who).1 = .ok got) :
    got = true ↔ ¬ ∃ x, x ≠ who ∧ (home x).place = (home who).place ∧ s.holds x = true := by
  rcases acquire_outcome h who with ⟨⟨e, heq⟩, -⟩ | ⟨hnone, heq, -⟩ | ⟨x, hplace, hx, heq, -⟩ <;>
    rw [heq] at hgot <;> cases hgot
  · refine iff_of_true rfl ?_
    rintro ⟨x, -, hplace, hx⟩
    obtain ⟨file, hfile, -⟩ := h.locks.holds_iff.mp hx
    rw [lockPlace_eq_iff.mpr hplace, hnone] at hfile
    cases hfile
  · rw [decide_eq_true_eq]
    constructor
    · -- he holds it himself, and only one does
      rintro rfl ⟨y, hne, hplace', hy⟩
      exact hne (h.single hy hx hplace')
    · intro hnone
      by_contra hne
      exact hnone ⟨x, hne, hplace, hx⟩

theorem IsLinked.gets (h : s.IsLinked home) (hgot : (s.acquire home who).1 = .ok true) (x : String) :
    (s.acquire home who).2.holds x = true ↔ x = who ∨ s.holds x = true := by
  rcases acquire_outcome h who with ⟨⟨e, heq⟩, -⟩ | ⟨-, -, hlocks⟩ | ⟨y, -, hy, heq, hlocks⟩
  · rw [heq] at hgot
    cases hgot
  · by_cases hx : x = who
    · simp [holds, Locks.holds, hlocks, Locks.withNew, hx]
    · simp [holds, Locks.holds, hlocks, Locks.withNew, Locks.set_of_ne _ _ hx, hx]
  · rw [heq, Except.ok.injEq, decide_eq_true_eq] at hgot
    rw [holds, hlocks]
    refine ⟨Or.inr, fun hx => hx.elim (fun hx => ?_) id⟩
    rw [hx, ← hgot]
    exact hy

theorem IsLinked.refused (h : s.IsLinked home) (hgot : (s.acquire home who).1 ≠ .ok true) :
    (s.acquire home who).2.locks = s.locks := by
  rcases acquire_outcome h who with ⟨-, hlocks⟩ | ⟨-, heq, -⟩ | ⟨x, -, -, -, hlocks⟩
  · exact hlocks
  · exact absurd heq hgot
  · exact hlocks

theorem IsLinked.releases (h : s.IsLinked home) (who : String) : (s.release home who).1 = .ok () ∧
    ∀ x, (s.release home who).2.holds x = true ↔ x ≠ who ∧ s.holds x = true := by
  cases hopen : s.locks.opened who with
  | none =>
    have hholds : s.holds who = false := by rw [holds, Locks.holds, hopen]; rfl
    rw [release_of_not_holds hholds]
    refine ⟨rfl, fun x => ⟨fun hx => ⟨?_, hx⟩, And.right⟩⟩
    rintro rfl
    exact Bool.false_ne_true (hholds.symm.trans hx)
  | some file =>
    rw [release_of_holds h hopen]
    refine ⟨rfl, fun x => ?_⟩
    by_cases hx : x = who
    · simp [holds, Locks.holds, Locks.without, hx]
    · simp [holds, Locks.holds, Locks.without, Locks.set_of_ne _ _ hx, hx]

theorem IsLinked.excludes (h : s.IsLinked home) : s.Excludes home where
  locked _ := h.locks.holds_iff
  single _ _ := h.single
  present _ := h.isFile_iff
  answer _ _ := h.answer
  gets _ := h.gets
  refused _ := h.refused
  releases := h.releases
  spares _ := release_of_not_holds

/-- after any calls for locks whose files were not there at the start, a lock excludes; and an attempt
ends, unless some lock could not be had at the start -/
theorem excludes_after (home : String → Path) (t : Tree)
    (hfree : ∀ who, t.isFile (lockPlace home who) = false) (calls : List Call) :
    Excludes home (after home { disk := { tree := t } } calls) ∧
      (t.Offers home → ∀ who,
        ∃ got, (acquire home who (after home { disk := { tree := t } } calls)).1 = .ok got) := by
  have hlinked := isLinked_after (isLinked_start hfree) calls
  refine ⟨hlinked.excludes, fun hoffers who => ?_⟩
  obtain ⟨t', -, ⟨bytes, -, heq⟩ | ⟨-, hnot⟩⟩ := acquire_cases hlinked who
  · exact ⟨_, congrArg Prod.fst heq⟩
  · exact absurd (offers_after (isLinked_start hfree) hoffers calls) hnot

/-- two who reach one directory by different paths, and one who has another directory: the first has the
lock and the second does not get it, and the third has another lock -/
theorem excludes_after_three :
    let home := fun who => if who = "a" then Path.ofString "state" else
      if who = "b" then Path.ofString "other/../state" else Path.ofString "state/c"
    let s := after home {} [.acquire "a", .acquire "c", .acquire "b"]
    Excludes home s ∧ (∃ got, (acquire home "b" s).1 = .ok got) ∧
      s.holds "a" = true ∧ s.holds "b" = false ∧ s.holds "c" = true := by
  intro home s
  have hhome (P : Path → Prop) (ha : P (Path.ofString "state"))
      (hb : P (Path.ofString "other/../state")) (hc : P (Path.ofString "state/c")) (who : String) :
      P (home who) := by
    dsimp only [home]
    split
    · exact ha
    · split
      · exact hb
      · exact hc
  have hfree (q : Place) : Tree.isFile {} q = false := by
    unfold Tree.isFile Tree.get?
    by_cases hq : q = []
    · rw [if_pos hq]
    · rw [if_neg hq]
      rfl
  have hoffers : Tree.Offers {} home := by
    refine ⟨hhome _ ?_ ?_ ?_, hhome (fun p => Tree.isDirectory {} (lockPath p).place = false) ?_ ?_ ?_,
      hhome (fun p => ∀ x, (lockPath p).place ∉ (home x).way) ?_ ?_ ?_⟩
    · exact ⟨by decide +kernel, by decide +kernel, by decide +kernel, fun q _ => hfree q⟩
    · exact ⟨by decide +kernel, by decide +kernel, by decide +kernel, fun q _ => hfree q⟩
    · exact ⟨by decide +kernel, by decide +kernel, by decide +kernel, fun q _ => hfree q⟩
    · decide +kernel
    · decide +kernel
    · decide +kernel
    · exact hhome (fun p => (lockPath (Path.ofString "state")).place ∉ p.way)
        (by decide +kernel) (by decide +kernel) (by decide +kernel)
    · exact hhome (fun p => (lockPath (Path.ofString "other/../state")).place ∉ p.way)
        (by decide +kernel) (by decide +kernel) (by decide +kernel)
    · exact hhome (fun p => (lockPath (Path.ofString "state/c")).place ∉ p.way)
        (by decide +kernel) (by decide +kernel) (by decide +kernel)
  obtain ⟨hexcludes, hends⟩ := excludes_after home {} (fun who => hfree _)
    [.acquire "a", .acquire "c", .acquire "b"]
  exact ⟨hexcludes, hends hoffers "b", by decide +kernel, by decide +kernel, by decide +kernel⟩

end Locking

end Debate.Files
