import Debate.Shell.Condition
import Debate.Shell.Reader
import Debate.Shell.Setting

/-!
# The state of a shell

A shell has parameters, variables, functions, options, and numbers that refer to channels. A part of a
script that is kept apart works on a copy of them.

* `Variable`, `ShellOptions`, `Scope`   the state of a shell;
* `Jump`                           how statements are left before their end;
* `Sh`                             a step of a shell;
* `lookup?`, `assign`              the value of a parameter, and a new value of a variable;
* `complain`, `failure`            a complaint of the shell, and one that ends it.
-/

namespace Debate.Shell

open Debate.Files Debate.Number

/-- a variable -/
structure Variable where
  /-- there may be none, if it is only known that programs are to be given one -/
  value : Option Octets := none
  /-- programs are given it -/
  exported : Bool := false
  readOnly : Bool := false
  deriving DecidableEq, Repr

/-- the options of a shell -/
structure ShellOptions where
  /-- a statement that fails ends the shell -/
  exitOnError : Bool := false
  /-- a variable without a value is a mistake -/
  noUnset : Bool := false
  /-- patterns stand for themselves -/
  noGlob : Bool := false
  /-- statements are read, but not executed -/
  noExecute : Bool := false
  /-- commands are shown before they are executed -/
  trace : Bool := false
  /-- the script is shown as it is read -/
  verbose : Bool := false
  exportAll : Bool := false
  /-- files that are there are not written over -/
  noClobber : Bool := false
  deriving DecidableEq, Repr

/-- a statement that runs beside the others -/
structure Job where
  process : Nat
  ends : Double
  status : Nat
  deriving DecidableEq, Repr

/-- the state of a shell -/
structure Scope where
  /-- the name of the shell or of its script -/
  name : Octets
  /-- the number of its process -/
  process : Nat
  arguments : List Octets := []
  held : List (Octets × Variable) := []
  functions : List (Octets × Nat × Statement) := []
  numbers : Numbers := []
  here : Place := []
  status : Nat := 0
  options : ShellOptions := {}
  /-- what is executed on a signal, or at the end -/
  traps : List (String × Octets) := []
  /-- the line of the statement at hand -/
  line : Nat := 1
  /-- the line on which the function starts that is executed -/
  functionLine : Option Nat := none
  /-- how many loops and functions the statement at hand stands in -/
  loops : Nat := 0
  calls : Nat := 0
  /-- the command at hand is tested, so that it may fail -/
  tested : Bool := false
  /-- the variables that functions have of their own, with what they were before -/
  locals : List (List (Octets × Option Variable)) := []
  jobs : List Job := []
  lastJob : Option Nat := none
  /-- the status of the last output that was put in place of statements -/
  outputStatus : Option Nat := none
  /-- the name of the command of the shell that is executed -/
  command : Octets := []
  /-- how far the letters of the options were read that share one word -/
  optionPlace : Nat := 0

/-- how statements are left before their end -/
inductive Jump where
  /-- the shell ends -/
  | exit (status : Nat)
  /-- a mistake that ends the shell, unless it is one of a command that may fail -/
  | mistake
  /-- the end of a function -/
  | ret (status : Nat)
  /-- the end of so many loops, or the next round of the outermost of them -/
  | leave (loops : Nat)
  | again (loops : Nat)
  deriving DecidableEq, Repr

/-- a step of a shell -/
abbrev Sh (α : Type) := ExceptT Jump (StateT Scope Act) α

namespace Sh

/-- a step on what commands work on -/
def act {α : Type} (x : Act α) : Sh α := ExceptT.lift (StateT.lift x)

/-- the state of the shell -/
def scope : Sh Scope := fun s => pure (.ok s, s)

/-- another state of the shell -/
def change (f : Scope → Scope) : Sh Unit := fun s => pure (.ok (), f s)

/-- what commands work on -/
def machine : Sh Machine := act get

/-- the outcome of a step, also if statements were left -/
def attempt {α : Type} (x : Sh α) : Sh (Except Jump α) := fun s => do
  let (r, s) ← (ExceptT.run x).run s
  return (.ok r, s)

end Sh

/-! ## complaints -/

/-- octets are written to what a number refers to -/
def put (number : Nat) (cs : Octets) : Sh Unit := do
  match (← Sh.scope).numbers.find? number with
  | some c => Sh.act (write c cs)
  | none => pure ()

/-- results are written -/
def say (cs : Octets) : Sh Unit := put 1 cs

/-- a complaint of the shell: its name, the line, and the command -/
def complain (text : Octets) : Sh Unit := do
  let s ← Sh.scope
  let command := if s.command.isEmpty then [] else s.command ++ ": ".toList
  put 2 (s.name ++ ": ".toList ++ Octets.ofNat s.line ++ ": ".toList ++ command ++ text ++ ['\n'])

/-- a status -/
def setStatus (n : Nat) : Sh Unit := Sh.change fun s => { s with status := n }

/-- a mistake, after a complaint about it -/
def failure {α : Type} (text : Octets) (status : Nat := 2) : Sh α := do
  complain text
  setStatus status
  throw .mistake

/-! ## parameters -/

/-- the value of a variable -/
def Scope.value? (s : Scope) (name : Octets) : Option Variable :=
  (s.held.find? fun v => v.1 = name).map (·.2)

/-- a state with a variable -/
def Scope.putVariable (s : Scope) (name : Octets) (v : Variable) : Scope :=
  { s with held := (name, v) :: s.held.filter fun x => x.1 ≠ name }

/-- a state without a variable -/
def Scope.removeVariable (s : Scope) (name : Octets) : Scope :=
  { s with held := s.held.filter fun x => x.1 ≠ name }

/-- the letters of the options that are set -/
def ShellOptions.letters (o : ShellOptions) : Octets :=
  (if o.noUnset then ['u'] else []) ++ (if o.exportAll then ['a'] else []) ++
    (if o.noClobber then ['C'] else []) ++ (if o.verbose then ['v'] else []) ++
    (if o.trace then ['x'] else []) ++ (if o.noExecute then ['n'] else []) ++
    (if o.noGlob then ['f'] else []) ++ (if o.exitOnError then ['e'] else [])

/-- the line that is named in complaints: counted from the start of a function that is executed -/
def Scope.shownLine (s : Scope) (line : Nat) : Nat :=
  match s.functionLine with
  | some f => line - (f - 1)
  | none => line

/-- the value of a parameter, if it has one -/
def Scope.lookup? (s : Scope) (name : Octets) : Option Octets :=
  match String.ofList name with
  | "?" => some (Octets.ofNat s.status)
  | "#" => some (Octets.ofNat s.arguments.length)
  | "$" => some (Octets.ofNat s.process)
  | "!" => s.lastJob.map Octets.ofNat
  | "-" => some s.options.letters
  | "0" => some s.name
  | "@" | "*" => if s.arguments.isEmpty then none else some ([' '].intercalate s.arguments)
  | "LINENO" =>
    match s.value? name with
    | some v => v.value
    | none => some (Octets.ofNat s.line)
  | _ =>
    match Octets.natural? name with
    | some n => s.arguments[n - 1]?
    | none => (s.value? name).bind (·.value)

/-- the characters that cut values into words -/
def Scope.separators (s : Scope) : Octets :=
  match s.value? "IFS".toList with
  | some v => v.value.getD []
  | none => " \t\n".toList

/-- a new value of a variable -/
def assign (name value : Octets) : Sh Unit := do
  let s ← Sh.scope
  let old := (s.value? name).getD {}
  if old.readOnly then failure (name ++ ": is read only".toList)
  else
    Sh.change fun s =>
      s.putVariable name { old with value := some value, exported := old.exported || s.options.exportAll }

/-- the variables that programs are given -/
def Scope.environment (s : Scope) : List (Octets × Octets) :=
  s.held.reverse.filterMap fun (n, v) => if v.exported then v.value.map fun x => (n, x) else none

/-- what a program is given that the shell starts -/
def Scope.setting (s : Scope) : Setting where
  numbers := s.numbers
  here := s.here
  environment := s.environment

end Debate.Shell
