import Debate.Text.Split

/-!
# Paths

A path is a list of names, below the root or below the directory at hand. Repeated slashes and
single dots are left out; double dots stay.

* `Path`            a path;
* `Path.ofString`   the path that a text writes;
* `Path.text`       the text of a path;
* `Path.child`      a path with one more name;
* `Path.parent`     a path without its last name;
* `Path.expandHome`  a path whose first name is a tilde, below the home directory.
-/

namespace Debate.Files

open Debate.Text

/-- a path -/
structure Path where
  /-- the slashes in front: none, one, or two -/
  root : String := ""
  names : List String := []
  deriving DecidableEq, Repr, Inhabited

namespace Path

/-- the slashes that a path keeps in front: exactly two stay, otherwise one -/
def rootOf (cs : List Char) : String :=
  match cs.takeWhile (· = '/') with
  | [] => ""
  | ['/', '/'] => "//"
  | _ => "/"

/-- the path that a text writes -/
def ofString (s : String) : Path :=
  let pieces := (split ['/'] s.toList).map String.ofList
  { root := rootOf s.toList, names := pieces.filter fun p => p ≠ "" ∧ p ≠ "." }

/-- the text of a path -/
def text (p : Path) : String :=
  if p.root = "" ∧ p.names = [] then "." else p.root ++ "/".intercalate p.names

/-- a path with one more name -/
def child (p : Path) (name : String) : Path := { p with names := p.names ++ [name] }

/-- a path without its last name -/
def parent (p : Path) : Path := { p with names := p.names.dropLast }

/-- the last name -/
def name (p : Path) : String := p.names.getLast?.getD ""

/-- a path below another one; a path from the root stays as it is -/
def below (p q : Path) : Path := if q.root = "" then { p with names := p.names ++ q.names } else q

/-- a path whose first name is a tilde, below the home directory; nothing if the tilde names the
home of somebody who is not known -/
def expandHome (p : Path) (home : String) : Option Path :=
  match p.root, p.names with
  | "", first :: rest =>
    if first = "~" then some ((ofString home).below { names := rest })
    else if first.toList.head? = some '~' then none
    else some p
  | _, _ => some p

@[simp] theorem parent_child (p : Path) (name : String) : (p.child name).parent = p := by
  simp [child, parent]

example : (ofString "a//b/./c/").text = "a/b/c" := by decide +kernel
example : (ofString "").text = "." := by decide +kernel
example : (ofString "///a/../b").text = "/a/../b" := by decide +kernel

end Path

end Debate.Files
