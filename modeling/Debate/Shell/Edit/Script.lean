import Debate.Shell.Regex

/-!
# Scripts that edit lines

A script is a row of commands. Each has a place in it; a block and a jump name the place at which the
script goes on.

* `Edit.Address`, `Edit.Stop`, `Edit.Selection`   the lines for which a command is executed;
* `Edit.Substitution`                             what is put in the place of what matches;
* `Edit.Action`, `Edit.Command`                   the commands;
* `Edit.Piece.fill`                               what is put there, with its letters in other cases.
-/

namespace Debate.Shell.Edit

/-- an expression, or the one that was used last, and how it is compared -/
structure Pattern where
  expression : Option Regex
  manner : Regex.Manner := {}
  deriving Repr, Inhabited

/-- a line that is meant -/
inductive Address where
  | number (n : Nat)
  /-- a line, and every so many lines after it -/
  | every (first step : Nat)
  | last
  | fitting (p : Pattern)
  /-- the place in front of the first line -/
  | front
  deriving Repr, Inhabited

/-- the end of a range of lines -/
inductive Stop where
  | number (n : Nat)
  | last
  | fitting (p : Pattern)
  /-- so many lines on, or the next line whose number is a multiple -/
  | more (n : Nat)
  | multiple (n : Nat)
  deriving Repr, Inhabited

/-- the lines for which a command is executed -/
structure Selection where
  start : Option Address := none
  stop : Option Stop := none
  negated : Bool := false
  deriving Repr, Inhabited

/-! ## substitutions -/

/-- another case for letters -/
inductive Case where
  | upper
  | lower
  /-- for the next letter only -/
  | upperNext
  | lowerNext
  /-- no other case any more -/
  | same
  deriving DecidableEq, Repr

/-- a piece of what is put in the place of what matches -/
inductive Piece where
  | text (cs : List Char)
  | group (n : Nat)
  | case (c : Case)
  deriving DecidableEq, Repr

/-- which cases letters are put in: all of them, and the next one -/
structure Casing where
  all : Option Bool := none
  next : Option Bool := none

/-- letters in the cases that they are put in -/
def Casing.apply (k : Casing) (cs : List Char) : Casing × List Char :=
  let change (upper : Option Bool) (c : Char) : Char := match upper with
    | some true => c.toUpper
    | some false => c.toLower
    | none => c
  match cs with
  | [] => (k, [])
  | c :: cs => ({ k with next := none }, change (k.next.or k.all) c :: cs.map (change k.all))

/-- what is put in the place of a match -/
def Piece.fill (text : Array Char) (f : Found) (k : Casing) : List Piece → List Char
  | [] => []
  | .text cs :: ps => let r := k.apply cs; r.2 ++ fill text f r.1 ps
  | .group n :: ps =>
    let held := match f.group? n with
      | some (a, b) => (text.extract a b).toList
      | none => []
    let r := k.apply held
    r.2 ++ fill text f r.1 ps
  | .case .upper :: ps => fill text f { k with all := some true } ps
  | .case .lower :: ps => fill text f { k with all := some false } ps
  | .case .upperNext :: ps => fill text f { k with next := some true } ps
  | .case .lowerNext :: ps => fill text f { k with next := some false } ps
  | .case .same :: ps => fill text f { k with all := none } ps

/-- what is put in the place of what matches -/
structure Substitution where
  pattern : Pattern
  pieces : List Piece
  every : Bool := false
  /-- the first match that counts -/
  first : Nat := 1
  prints : Bool := false
  /-- what comes of it is executed -/
  executes : Bool := false
  file : Option Octets := none
  deriving Repr, Inhabited

/-! ## commands -/

/-- what a command does -/
inductive Action where
  /-- a block, and the place behind it -/
  | block (behind : Nat)
  | nothing
  | jump (target : Nat)
  /-- only if something was substituted, or only if nothing was -/
  | jumpIf (substituted : Bool) (target : Nat)
  | append (text : Octets)
  | insert (text : Octets)
  | change (text : Octets)
  | delete
  | deleteLine
  | execute (command : Octets)
  | next
  | nextAppend
  | print
  | printLine
  | hold
  | holdAppend
  | get
  | getAppend
  | exchange
  | list (width : Option Nat)
  | quit (status : Nat)
  | quitSilently (status : Nat)
  | number
  | fileName
  | clear
  | read (path : Octets)
  | readLine (path : Octets)
  | write (path : Octets)
  | writeLine (path : Octets)
  | substitute (s : Substitution)
  | exchangeLetters (pairs : List (Char × Char))
  deriving Repr, Inhabited

/-- a command, and the lines for which it is executed -/
structure Command where
  selection : Selection := {}
  action : Action := .nothing
  deriving Repr, Inhabited

/-- a script; `silent` says that lines are not shown unless they are printed -/
structure Script where
  commands : Array Command := #[]
  silent : Bool := false
  deriving Inhabited

example : Piece.fill "ab".toList.toArray { start := 0, stop := 2 } {}
    [.case .upperNext, .group 0, .text ['!']] = "Ab!".toList := by decide +kernel

end Debate.Shell.Edit
