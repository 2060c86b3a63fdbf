import Debate.Number.Double
import Debate.Shell.Regex

/-!
# Scripts that report on records

A script has rules: what is done with the records that a pattern fits, with functions of its own. Variables
and arrays are known by numbers, those of a function by their place among its parameters.

* `Report.Name`, `Report.Function`          what stands for values;
* `Report.Expression`, `Report.Statement`   what is computed, and what is done;
* `Report.Rule`, `Report.Script`            the whole.
-/

namespace Debate.Shell.Report

open Debate.Number

/-- a variable or an array -/
inductive Name where
  | shared (n : Nat)
  /-- a parameter of the function at hand -/
  | own (i : Nat)
  deriving DecidableEq, Repr, Inhabited

/-- an operation with two numbers -/
inductive Operator where
  | add | subtract | multiply | divide | remainder | power
  deriving DecidableEq, Repr, Inhabited

/-- how two values are compared -/
inductive Comparison where
  | less | lessOrEqual | equal | notEqual | greater | greaterOrEqual
  deriving DecidableEq, Repr, Inhabited

/-- a function that is given -/
inductive Function where
  | length | substring | find | format | upper | lower | integer
  | squareRoot | exponential | logarithm | sine | cosine | arcTangent | random | seed
  | system | close | flush
  deriving DecidableEq, Repr, Inhabited

mutual

/-- something that is computed -/
inductive Expression where
  | number (x : Double)
  | text (cs : Octets)
  /-- whether the record fits -/
  | regex (r : Regex)
  | variable (n : Name)
  | element (a : Name) (index : List Expression)
  | field (e : Expression)
  | assign (target value : Expression)
  | update (target : Expression) (op : Operator) (value : Expression)
  /-- one more or one less; the value is that before or that after -/
  | step (target : Expression) (up after : Bool)
  | choice (test yes no : Expression)
  | both (a b : Expression)
  | either (a b : Expression)
  | not (a : Expression)
  | negative (a : Expression)
  | positive (a : Expression)
  | operate (op : Operator) (a b : Expression)
  | join (a b : Expression)
  | compare (c : Comparison) (a b : Expression)
  | fits (a b : Expression) (wanted : Bool)
  | member (a : Name) (index : List Expression)
  | call (function : Octets) (args : List Expression)
  | given (f : Function) (args : List Expression)
  | split (value : Expression) (a : Name) (separator : Option Expression)
  | locate (value pattern : Expression)
  /-- a substitution in the record or in something else -/
  | substitute (all : Bool) (pattern value : Expression) (target : Option Expression)
  | getRecord (target : Option Expression)
  | getFrom (target : Option Expression) (path : Expression)
  | getOutput (target : Option Expression) (command : Expression)

end

instance : Inhabited Expression := ⟨.text []⟩

/-- where something is printed to -/
inductive Direction where
  | file
  | append
  | command
  deriving DecidableEq, Repr, Inhabited

/-- something that is done -/
inductive Statement where
  | nothing
  | block (body : List Statement)
  | compute (e : Expression)
  | print (formatted : Bool) (args : List Expression) (goal : Option (Direction × Expression))
  | choose (test : Expression) (yes no : Statement)
  | whileTrue (test : Expression) (body : Statement)
  | doWhile (body : Statement) (test : Expression)
  | count (start : Statement) (test : Option Expression) (step body : Statement)
  | each (target : Expression) (a : Name) (body : Statement)
  | leaveLoop
  | nextRound
  | nextRecord
  | nextFile
  | exit (status : Option Expression)
  | answer (value : Option Expression)
  | delete (a : Name) (index : List Expression)
  | deleteAll (a : Name)

instance : Inhabited Statement := ⟨.nothing⟩

/-- for which records something is done -/
inductive Pattern where
  | every
  | test (e : Expression)
  | range (first last : Expression)
  deriving Inhabited

/-- what is done with the records that a pattern fits -/
structure Rule where
  pattern : Pattern
  body : Statement
  deriving Inhabited

/-- a function of a script; parameters may be arrays -/
structure Routine where
  name : Octets
  arrays : Array Bool
  body : Statement
  deriving Inhabited

/-- a script -/
structure Script where
  starts : List Statement := []
  rules : List Rule := []
  ends : List Statement := []
  routines : List Routine := []
  /-- the names of shared variables and arrays, by their numbers -/
  names : Array Octets := #[]
  /-- which of them are arrays -/
  arrays : Array Bool := #[]
  deriving Inhabited

/-- the function of a name -/
def Script.routine? (s : Script) (name : Octets) : Option Routine := s.routines.find? fun r => r.name = name

/-! ## variables with a meaning -/

/-- the names of variables and arrays with a meaning, by their numbers -/
def givenNames : Array Octets :=
  #["NF", "NR", "FNR", "FS", "RS", "OFS", "ORS", "FILENAME", "SUBSEP", "RSTART", "RLENGTH", "CONVFMT", "OFMT",
    "ENVIRON", "ARGV", "ARGC"].map String.toList

namespace Given

/-- how many fields there are -/
def fieldCount : Nat := 0

/-- how many records were read, and how many of the file at hand -/
def recordCount : Nat := 1
@[inherit_doc recordCount] def fileRecordCount : Nat := 2

/-- what stands between fields and between records -/
def fieldMark : Nat := 3
@[inherit_doc fieldMark] def recordMark : Nat := 4

/-- what is printed between fields and between records -/
def outputFieldMark : Nat := 5
@[inherit_doc outputFieldMark] def outputRecordMark : Nat := 6

/-- the file at hand -/
def fileName : Nat := 7

/-- what stands between the parts of an index -/
def indexMark : Nat := 8

/-- where a match starts, and how long it is -/
def matchStart : Nat := 9
@[inherit_doc matchStart] def matchLength : Nat := 10

/-- how numbers are written: in texts, and when they are printed -/
def textFormat : Nat := 11
@[inherit_doc textFormat] def outputFormat : Nat := 12

/-- the variables of the environment -/
def environment : Nat := 13

/-- the arguments of the program, and how many they are -/
def arguments : Nat := 14
@[inherit_doc arguments] def argumentCount : Nat := 15

end Given

end Debate.Shell.Report
