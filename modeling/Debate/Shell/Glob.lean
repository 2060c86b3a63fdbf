import Debate.Shell.Machine
import Debate.Shell.Regex

/-!
# Patterns

In a pattern a star stands for any text, a question mark for any octet, and square brackets for one of
those between them, or for any other one after an exclamation mark. What was quoted stands for itself.
A pattern with such marks can stand for the paths that fit; a dot at the start of a name is only meant
by a dot.

* `Marked`            characters, each with whether it can be a mark;
* `Glob`              the elements of a pattern;
* `Glob.fits`         whether a text fits a pattern;
* `Glob.removeFirst?`, `Glob.removeLast?`   a text without a part that fits, at its start or end;
* `Glob.paths`        the paths that fit a pattern.
-/

namespace Debate.Shell

open Debate.Files

/-- characters, each with whether it can be a mark -/
abbrev Marked := List (Char × Bool)

/-- an element of a pattern -/
inductive Glob.Element where
  | char (c : Char)
  | any
  | many
  | oneOf (negated : Bool) (ranges : List (Char × Char)) (classes : List CharacterClass)
  deriving DecidableEq, Repr

/-- the elements of a pattern -/
abbrev Glob := List Glob.Element

namespace Glob

/-! ## reading -/

/-- the name of a class up to its end, and what follows it -/
def className : Nat → Marked → Option (List Char × Marked)
  | 0, _ => none
  | _, (':', _) :: (']', _) :: cs => some ([], cs)
  | fuel + 1, (c, _) :: cs => (className fuel cs).map fun r => (c :: r.1, r.2)
  | _, [] => none

/-- what stands between square brackets, and what follows them -/
def members : Nat → Bool → List (Char × Char) → List CharacterClass → Marked →
    Option (List (Char × Char) × List CharacterClass × Marked)
  | 0, _, _, _, _ => none
  | fuel + 1, first, ranges, classes, cs =>
    let single (c : Char) (cs : Marked) :=
      match cs with
      | ('-', true) :: (b, _) :: rest =>
        if b = ']' then members fuel false ((c, c) :: ranges) classes cs
        else members fuel false ((c, b) :: ranges) classes rest
      | cs => members fuel false ((c, c) :: ranges) classes cs
    match cs with
    | [] => none
    | (']', true) :: cs => if first then single ']' cs else some (ranges, classes, cs)
    | ('[', true) :: (':', m) :: cs =>
      match className fuel cs with
      | some (name, rest) =>
        match CharacterClass.ofName? name with
        | some k => members fuel false ranges (k :: classes) rest
        | none => members fuel false ranges classes rest
      | none => single '[' ((':', m) :: cs)
    | (c, _) :: cs => single c cs

/-- the element of square brackets after the first, and what follows them -/
def bracket? (cs : Marked) : Option (Element × Marked) :=
  let (negated, cs) := match cs with
    | ('!', true) :: cs => (true, cs)
    | cs => (false, cs)
  (members (cs.length + 1) true [] [] cs).map fun r => (.oneOf negated r.1 r.2.1, r.2.2)

/-- the pattern that characters write -/
def readFrom : Nat → Marked → Glob
  | 0, _ => []
  | _, [] => []
  | fuel + 1, (c, active) :: cs =>
    if !active then .char c :: readFrom fuel cs
    else
      match c with
      | '*' => .many :: readFrom fuel cs
      | '?' => .any :: readFrom fuel cs
      | '[' =>
        match bracket? cs with
        | some (e, rest) => e :: readFrom fuel rest
        | none => .char '[' :: readFrom fuel cs
      | c => .char c :: readFrom fuel cs

/-- the pattern that characters write -/
def read (cs : Marked) : Glob := readFrom cs.length cs

/-- whether a pattern is only a text -/
def isLiteral (g : Glob) : Bool := g.all fun e =>
  match e with
  | .char _ => true
  | _ => false

/-! ## fitting -/

/-- whether an octet fits an element that stands for one -/
def Element.fits : Element → Char → Bool
  | .char c, x => c = x
  | .any, _ => true
  | .many, _ => true
  | .oneOf negated ranges classes, x => Regex.inSet ranges classes x != negated

/-- a text and all its ends -/
def suffixes : List Char → List (List Char)
  | [] => [[]]
  | c :: cs => (c :: cs) :: suffixes cs

/-- whether a text fits a pattern -/
def fits : Glob → List Char → Bool
  | [], cs => cs.isEmpty
  | .many :: g, cs => (suffixes cs).any fun s => fits g s
  | e :: g, c :: cs => e.fits c && fits g cs
  | _ :: _, [] => false

/-- a text cut at each place, the shortest first part first -/
def cuts (cs : List Char) : List (List Char × List Char) :=
  (List.range (cs.length + 1)).map fun n => (cs.take n, cs.drop n)

/-- a text without a first part that fits: the shortest one or the longest -/
def removeFirst (g : Glob) (longest : Bool) (cs : List Char) : List Char :=
  let all := if longest then (cuts cs).reverse else cuts cs
  ((all.find? fun c => g.fits c.1).map (·.2)).getD cs

/-- a text without a last part that fits: the shortest one or the longest -/
def removeLast (g : Glob) (longest : Bool) (cs : List Char) : List Char :=
  let all := if longest then cuts cs else (cuts cs).reverse
  ((all.find? fun c => g.fits c.2).map (·.1)).getD cs

/-! ## paths -/

/-- a pattern cut at its slashes -/
def components (cs : Marked) : List Marked :=
  cs.foldr (fun c parts =>
    if c.1 = '/' then [] :: parts
    else
      match parts with
      | p :: ps => (c :: p) :: ps
      | [] => [[c]]) [[]]

/-- the names in a directory that fit a pattern -/
def namesIn (m : Machine) (place : Place) (g : Glob) : List Octets :=
  let dots := if g.head? = some (.char '.') then [".".toList, "..".toList] else []
  let all := dots ++ (m.children place).map Octets.ofString
  all.filter fun n => g.fits n && (n.head? ≠ some '.' || g.head? = some (.char '.'))

/-- the paths that fit the components of a pattern, below a path -/
def pathsFrom (m : Machine) (here : Place) (before : Octets) : List Marked → List Octets
  | [] => []
  | [last] =>
    let g := read last
    if last.isEmpty then [before]
    else if g.isLiteral then
      let path := before ++ last.map (·.1)
      match m.stat here path with
      | .ok _ => [path]
      | .error _ => []
    else
      match m.locate here (if before.isEmpty then ['.'] else before) with
      | .ok place => if m.tree.isDirectory place then (namesIn m place g).map (before ++ ·) else []
      | .error _ => []
  | c :: cs =>
    let g := read c
    if g.isLiteral then pathsFrom m here (before ++ c.map (·.1) ++ ['/']) cs
    else
      match m.locate here (if before.isEmpty then ['.'] else before) with
      | .ok place =>
        if m.tree.isDirectory place then
          (namesIn m place g).flatMap fun n =>
            match m.stat here (before ++ n) with
            | .ok (.directory _) => pathsFrom m here (before ++ n ++ ['/']) cs
            | _ => []
        else []
      | .error _ => []

/-- the paths that fit a pattern, in order; the text itself if there are none -/
def paths (m : Machine) (here : Place) (cs : Marked) : List Octets :=
  let plain := [cs.map (·.1)]
  if (read cs).isLiteral then plain
  else
    match pathsFrom m here [] (components cs) with
    | [] => plain
    | ps => ps.mergeSort fun a b => !(Octets.before b a)

/-- characters that are all marks where they can be -/
def active (cs : List Char) : Marked := cs.map fun c => (c, true)

example : (read (active "a*[!x]c".toList)).fits "abbyc".toList = true := by decide +kernel
example : (read (active "*.".toList)).removeLast true "a.b.c".toList = "a.b.c".toList := by decide +kernel
example : (read (active ".*".toList)).removeLast false "a.b.c".toList = "a.b".toList := by decide +kernel

end Glob

end Debate.Shell
