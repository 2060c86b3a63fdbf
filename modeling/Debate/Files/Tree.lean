import Debate.Fault
import Debate.Files.Path

/-!
# File trees

A tree maps the places below the directory at hand to files and directories. The directory at hand
is the empty place; every other place lies in a directory of the tree.

* `Node`           a file with its bytes, or a directory;
* `Tree`           what stands at which place;
* `Tree.get?`, `Tree.put`, `Tree.remove`   a place read, written and cleared;
* `Tree.plant`     a place written, with the directories that it lies in;
* `Tree.files`     the files with their bytes;
* `Tree.resolve`   the place that a path leads to, or why it leads nowhere;
* `Tree.stat`      what stands there.
-/

namespace Debate.Files

/-- what stands at a place -/
inductive Node where
  | file (bytes : List UInt8)
  /-- a directory, and whether only its owner may look into it -/
  | directory (ownerOnly : Bool)
  deriving DecidableEq, Repr

/-- the names on the way to a place -/
abbrev Place := List String

/-- what stands at which place -/
structure Tree where
  entries : List (Place × Node) := []
  deriving DecidableEq, Repr

namespace Tree

/-- what stands at a place -/
def get? (t : Tree) (p : Place) : Option Node :=
  if p = [] then some (.directory false) else (t.entries.find? fun e => e.1 = p).map (·.2)

/-- a tree without a place -/
def remove (t : Tree) (p : Place) : Tree := ⟨t.entries.filter fun e => e.1 ≠ p⟩

/-- a tree with something at a place -/
def put (t : Tree) (p : Place) (n : Node) : Tree := ⟨(p, n) :: (t.remove p).entries⟩

/-- whether a place is a directory -/
def isDirectory (t : Tree) (p : Place) : Bool :=
  match t.get? p with
  | some (.directory _) => true
  | _ => false

/-- whether a place is a file -/
def isFile (t : Tree) (p : Place) : Bool :=
  match t.get? p with
  | some (.file _) => true
  | _ => false

theorem get?_remove (t : Tree) {p q : Place} (hq : q ≠ []) :
    (t.remove p).get? q = if q = p then none else t.get? q := by
  have key : ∀ es : List (Place × Node),
      (es.filter fun e => decide (e.1 ≠ p)).find? (fun e => decide (e.1 = q)) =
        if q = p then none else es.find? fun e => decide (e.1 = q) := by
    intro es
    induction es with
    | nil => simp
    | cons e es ih =>
      by_cases he : e.1 = p
      · rw [List.filter_cons_of_neg (by simp [he]), ih]
        by_cases hqp : q = p
        · simp [hqp]
        · simp [hqp, he, Ne.symm hqp]
      · rw [List.filter_cons_of_pos (by simp [he])]
        by_cases heq : e.1 = q
        · have : q ≠ p := heq ▸ he
          simp [heq, this]
        · simp only [List.find?_cons, heq, decide_false]
          exact ih
  simp only [get?, hq, if_false, remove, key]
  split <;> simp

theorem get?_put (t : Tree) {p q : Place} (n : Node) (hq : q ≠ []) :
    (t.put p n).get? q = if q = p then some n else t.get? q := by
  by_cases h : q = p
  · subst h
    simp [get?, hq, put]
  · have := get?_remove t (p := p) hq
    rw [if_neg h] at this ⊢
    rw [← this]
    simp [get?, hq, put, Ne.symm h]

/-! ## many places -/

/-- a tree with directories on the way to a place, each made unless something stands there -/
def plantParents (t : Tree) (p : Place) : Tree :=
  (List.range p.length).foldl (fun t n =>
    if (t.get? (p.take n)).isSome then t else t.put (p.take n) (.directory false)) t

/-- a tree with something at a place, and directories on the way there -/
def plant (t : Tree) (p : Place) (n : Node) : Tree :=
  if p = [] then t else (t.plantParents p).put p n

/-- the files with their bytes -/
def files (t : Tree) : List (Place × List UInt8) :=
  t.entries.filterMap fun e =>
    match e.2 with
    | .file bytes => some (e.1, bytes)
    | .directory _ => none

/-! ## paths -/

/-- the longest name, in bytes -/
def maxName : Nat := 255

/-- the place that names lead to from a place; the way there must be directories -/
def resolveFrom (t : Tree) (here : Place) : List String → Except FileError Place
  | [] => .ok here
  | name :: names =>
    match t.get? here with
    | some (.directory _) =>
      if name = ".." then resolveFrom t here.dropLast names
      else if name.utf8ByteSize > maxName then .error .nameTooLong
      else resolveFrom t (here ++ [name]) names
    | some (.file _) => .error .notDirectory
    | none => .error .missing

/-- the place that a path leads to; nothing stands at the root -/
def resolve (t : Tree) (p : Path) : Except FileError Place :=
  if p.root = "" then resolveFrom t [] p.names else .error .missing

/-- what stands where a path leads -/
def stat (t : Tree) (p : Path) : Except FileError Node := do
  let place ← t.resolve p
  match t.get? place with
  | some n => .ok n
  | none => .error .missing

end Tree

end Debate.Files
