import Debate.Files.Tree

/-!
# The disk

The disk is a file tree together with the outages that are still to come: each elementary step on
the tree takes one entry off that list, and fails if the entry names an error. A step that fails
leaves the tree as it was.

* `Disk`             the tree, and the outages to come;
* `OnDisk`           a computation on the disk that may end in a fault;
* `Disk.exists`, `Disk.read`   looking, which no outage disturbs;
* `Disk.makeDirectory`, `Disk.create`, `Disk.fill`, `Disk.append`, `Disk.rename`, `Disk.remove`,
  `Disk.restrict`    the elementary steps.
-/

namespace Debate.Files

/-- a file tree, and the outages to come -/
structure Disk where
  tree : Tree := {}
  /-- for each step to come, the error it fails with, if any -/
  outages : List (Option FileError) := []
  deriving DecidableEq, Repr

/-- a computation on the disk that may end in a fault -/
abbrev OnDisk (α : Type) := ExceptT Fault (StateM Disk) α

namespace Disk

/-- the fault of an error at a path -/
def faultAt (p : Path) (e : FileError) : Fault := .file e [p.text]

/-- a path that cannot be handed to a disk: one of its names holds the null character -/
def isUnspeakable (p : Path) : Bool := p.text.toList.any (· = '\x00')

/-- the fault of a path that cannot be handed to a disk -/
def unspeakable : Fault := .badValue "embedded null byte"

/-- what a computation on the tree gives, with its error as a fault at a path -/
def look {α : Type} (p : Path) (f : Tree → Except FileError α) : OnDisk α := do
  let d ← get
  match f d.tree with
  | .ok x => return x
  | .error e => throw (faultAt p e)

/-- an elementary step: a new tree, unless an outage or the tree itself is in the way -/
def step (p : Path) (f : Tree → Except FileError Tree) : OnDisk Unit := do
  if isUnspeakable p then throw unspeakable
  let d ← get
  set { d with outages := d.outages.tail }
  match d.outages.head?.join with
  | some e => throw (faultAt p e)
  | none =>
    match f d.tree with
    | .ok tree => set { d with tree, outages := d.outages.tail }
    | .error e => throw (faultAt p e)

/-! ## looking -/

/-- whether anything stands where a path leads -/
def exists? (t : Tree) (p : Path) : Except FileError Bool :=
  match t.stat p with
  | .ok _ => .ok true
  | .error .missing | .error .notDirectory => .ok false
  | .error e => .error e

/-- whether anything stands where a path leads -/
def «exists» (p : Path) : OnDisk Bool :=
  if isUnspeakable p then return false else look p fun t => exists? t p

/-- whether a path leads to a directory -/
def isDirectory (p : Path) : OnDisk Bool := do
  let d ← get
  match d.tree.stat p with
  | .ok (.directory _) => return true
  | _ => return false

/-- the bytes of a file -/
def read (p : Path) : OnDisk (List UInt8) := do
  if isUnspeakable p then throw unspeakable
  look p fun t => do
    match ← t.stat p with
    | .file bytes => .ok bytes
    | .directory _ => .error .isDirectory

/-! ## steps -/

/-- a new directory -/
def makeDirectory (p : Path) : OnDisk Unit :=
  step p fun t => do
    let place ← t.resolve p
    match t.get? place with
    | some _ => .error .exists
    | none => .ok (t.put place (.directory false))

/-- only the owner may look into a directory -/
def restrict (p : Path) : OnDisk Unit :=
  step p fun t => do
    let place ← t.resolve p
    match t.get? place with
    | some (.directory _) => .ok (t.put place (.directory true))
    | some (.file _) => .ok t
    | none => .error .missing

/-- a new, empty file -/
def create (p : Path) : OnDisk Unit :=
  step p fun t => do
    let place ← t.resolve p
    match t.get? place with
    | some _ => .error .exists
    | none => .ok (t.put place (.file []))

/-- new bytes for a file that is there -/
def fill (p : Path) (bytes : List UInt8) : OnDisk Unit :=
  step p fun t => do
    let place ← t.resolve p
    match t.get? place with
    | some (.file _) => .ok (t.put place (.file bytes))
    | some (.directory _) => .error .isDirectory
    | none => .error .missing

/-- bytes at the end of a file, which is made if it is missing -/
def append (p : Path) (bytes : List UInt8) : OnDisk Unit :=
  step p fun t => do
    let place ← t.resolve p
    match t.get? place with
    | some (.file old) => .ok (t.put place (.file (old ++ bytes)))
    | some (.directory _) => .error .isDirectory
    | none => .ok (t.put place (.file bytes))

/-- a file moved to another place; a file there is replaced, and a directory that the path only
refers to is in use -/
def rename (p q : Path) : OnDisk Unit :=
  step p fun t => do
    let source ← t.resolve p
    let target ← t.resolve q
    if q.names.getLast?.all (· = "..") then throw .busy
    match t.get? source, t.get? target with
    | some (.file _), some (.directory _) => .error .isDirectory
    | some (.file bytes), _ => .ok ((t.remove source).put target (.file bytes))
    | _, _ => .error .missing

/-- a file taken away -/
def remove (p : Path) : OnDisk Unit :=
  step p fun t => do
    let place ← t.resolve p
    match t.get? place with
    | some (.file _) => .ok (t.remove place)
    | some (.directory _) => .error .isDirectory
    | none => .error .missing

/-! ## directories -/

/-- the outcome of a computation; its fault is handed over instead of ending everything -/
def attempt {α : Type} (m : OnDisk α) : OnDisk (Except Fault α) := fun d =>
  let r := ExceptT.run m d
  (.ok r.1, r.2)

/-- a directory that may be there already -/
def ensureOne (p : Path) : OnDisk Unit := do
  match ← attempt (makeDirectory p) with
  | .ok () => return ()
  | .error (.file .missing paths) => throw (.file .missing paths)
  | .error e => if ← isDirectory p then return () else throw e

/-- a directory with all those that it lies in; the names come last one first -/
def ensureFrom (root : String) : List String → OnDisk Unit
  | [] => ensureOne { root, names := [] }
  | name :: above => do
    let p : Path := { root, names := (name :: above).reverse }
    match ← attempt (makeDirectory p) with
    | .ok () => return ()
    | .error (.file .missing _) => do
      ensureFrom root above
      ensureOne p
    | .error e => if ← isDirectory p then return () else throw e

/-- a directory with all those that it lies in -/
def ensureDirectory (p : Path) : OnDisk Unit := ensureFrom p.root p.names.reverse

/-- a directory that only its owner may look into -/
def ensureSecure (p : Path) : OnDisk Unit := do
  ensureDirectory p
  restrict p

end Disk

end Debate.Files
