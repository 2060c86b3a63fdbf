import Debate.Files.Disk

/-!
# Locks

A lock belongs to a directory and is a file in it. Whoever wants it opens that file, making it if it
is missing, and then locks what was opened; only one can. Letting go unlocks the file and takes it
away. A lock is held on the file that was opened, not on the path: two paths may lead to one file, and
a file that was taken away and made anew is another one.

* `Locks`            the files, who has opened which, and who has locked which;
* `Locks.acquire`    an attempt to lock the file at a place;
* `Locks.release`    letting go of it;
* `Locks.holds`      whether somebody holds a lock;
* `Disk.acquireLock`, `Disk.releaseLock`   the same for a directory of a disk, with its file.
-/

namespace Debate.Files

/-- lock files, numbered as they are made -/
structure Locks where
  /-- the file at a place -/
  fileAt : Place → Option Nat := fun _ => none
  /-- the file that somebody has open -/
  opened : String → Option Nat := fun _ => none
  /-- who has locked a file -/
  owner : Nat → Option String := fun _ => none
  /-- how many files were made -/
  made : Nat := 0

namespace Locks

/-- a function with another value at one argument -/
def set {α β : Type} [DecidableEq α] (f : α → β) (a : α) (b : β) : α → β :=
  fun x => if x = a then b else f x

@[simp] theorem set_self {α β : Type} [DecidableEq α] (f : α → β) (a : α) (b : β) :
    set f a b a = b := by simp [set]

theorem set_of_ne {α β : Type} [DecidableEq α] (f : α → β) {a x : α} (b : β) (h : x ≠ a) :
    set f a b x = f x := by simp [set, h]

/-- whether somebody holds a lock -/
def holds (l : Locks) (who : String) : Bool := (l.opened who).isSome

/-- what somebody has open is closed, which unlocks it -/
def close (l : Locks) (who : String) : Locks :=
  match l.opened who with
  | none => l
  | some file =>
    { l with
      opened := set l.opened who none
      owner := if l.owner file = some who then set l.owner file none else l.owner }

/-- the file at a place, made if it is missing -/
def openFile (l : Locks) (place : Place) : Nat × Locks :=
  match l.fileAt place with
  | some file => (file, l)
  | none => (l.made, { l with fileAt := set l.fileAt place (some l.made), made := l.made + 1 })

/-- an attempt to lock the file at a place; what was open before is closed once the file is opened
again -/
def acquire (l : Locks) (place : Place) (who : String) : Bool × Locks :=
  let (file, l) := l.openFile place
  let l := l.close who
  match l.owner file with
  | none =>
    (true, { l with
      opened := set l.opened who (some file), owner := set l.owner file (some who) })
  | some _ => (false, l)

/-- letting go of the file at a place, which is taken away; nothing happens for somebody who does not
hold one -/
def release (l : Locks) (place : Place) (who : String) : Locks :=
  if l.holds who then
    let l := l.close who
    { l with fileAt := set l.fileAt place none }
  else l

/-- the locks when only the files of a tree are there -/
def within (l : Locks) (t : Tree) : Locks :=
  { l with fileAt := fun p => if t.isFile p then l.fileAt p else none }

end Locks

/-! ## directories -/

/-- the file of the lock of a directory -/
def lockPath (directory : Path) : Path := directory.child "orchestrator.lock"

namespace Disk

/-- an attempt to get the lock of a directory, which is made if it is missing -/
def acquireLock (l : Locks) (directory : Path) (who : String) : OnDisk (Bool × Locks) := do
  ensureDirectory directory
  let l := l.within (← get).tree
  append (lockPath directory) []
  let place ← look (lockPath directory) fun t => t.resolve (lockPath directory)
  return l.acquire place who

/-- the lock of a directory is let go, and its file is taken away if it is there -/
def releaseLock (l : Locks) (directory : Path) (who : String) : OnDisk Locks := do
  let path := lockPath directory
  if l.holds who then
    if ← «exists» path then
      let place ← look path fun t => t.resolve path
      remove path
      return l.release place who
    else return l.close who
  else return l

end Disk

end Debate.Files
