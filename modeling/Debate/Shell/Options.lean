import Debate.Number.Power
import Debate.Shell.Setting
import Debate.Text.Split

/-!
# Options of programs

The arguments of a program are options and operands. An option is a letter after a hyphen, or a word after
two, which may be shortened as long as no other word begins so. The value of a letter follows at once or
is the next argument; that of a word follows an equals sign or is the next argument. Letters without values
may share one argument. After two hyphens nothing is an option.

* `Flag`                   an option of a program;
* `Options`                the options that were given, and the operands;
* `Options.read`           the options among arguments, or what is wrong with them;
* `withOptions`            a program, by what it does with its options.
-/

namespace Debate.Shell

open Debate.Number.Power

/-- whether an option takes a value -/
inductive Takes where
  | nothing
  | value
  /-- a value that follows at once, or none -/
  | maybe
  deriving DecidableEq, Repr

/-- an option of a program -/
structure Flag where
  letter : Option Char
  word : String := ""
  takes : Takes := .nothing
  deriving DecidableEq, Repr

namespace Flag

/-- the name under which an option is kept: its letter, or its word if it has none -/
def key (f : Flag) : String :=
  match f.letter with
  | some c => c.toString
  | none => f.word

/-- an option without a value -/
def on (letter : Char) (word : String := "") : Flag := { letter, word }

/-- an option with a value -/
def valued (letter : Char) (word : String := "") : Flag := { letter, word, takes := .value }

/-- an option that has a word only -/
def long (word : String) (takes : Takes := .nothing) : Flag := { letter := none, word, takes }

end Flag

/-- the options that were given, with their values, and the operands -/
structure Options where
  given : List (String × Octets) := []
  operands : List Octets := []
  deriving DecidableEq, Repr

namespace Options

/-- whether an option was given -/
def has (o : Options) (key : String) : Bool := o.given.any fun g => g.1 = key

/-- the values that an option was given -/
def all (o : Options) (key : String) : List Octets :=
  o.given.filterMap fun g => if g.1 = key then some g.2 else none

/-- the last value that an option was given -/
def last? (o : Options) (key : String) : Option Octets := (o.all key).getLast?

/-- the last of several options that was given -/
def lastOf? (o : Options) (keys : List String) : Option (String × Octets) :=
  (o.given.filter fun g => keys.contains g.1).getLast?

/-- the operands, or a hyphen for the input if there are none -/
def files (o : Options) : List Octets := if o.operands.isEmpty then [['-']] else o.operands

/-- one more option -/
def give (o : Options) (key : String) (value : Octets) : Options :=
  { o with given := o.given ++ [(key, value)] }

/-- a word of an option between quotes -/
def shown (word : Octets) : Octets := "'--".toList ++ word ++ ['\'']

/-- the option that a word means: that of exactly this word, or the only one that begins so -/
def wordOf (flags : List Flag) (word : Octets) : Except Octets Flag :=
  let worded := flags.filter fun f => f.word ≠ ""
  match worded.find? fun f => f.word.toList = word with
  | some f => .ok f
  | none =>
    match worded.filter fun f => word.isPrefixOf f.word.toList with
    | [] => .error ("unrecognized option ".toList ++ shown word)
    | [f] => .ok f
    | fs => .error ("option ".toList ++ shown word ++ " is ambiguous; possibilities:".toList ++
        fs.flatMap fun f => ' ' :: shown f.word.toList)

/-- the letters of one argument; the last may take a value, which may be the next argument: the options,
and the arguments that are left -/
def letters (flags : List Flag) (args : List Octets) : Octets → Except Octets (List (String × Octets) × List Octets)
  | [] => .ok ([], args)
  | c :: cs =>
    match flags.find? fun f => f.letter = some c with
    | none => .error ("invalid option -- '".toList ++ [c, '\''])
    | some f =>
      match f.takes with
      | .nothing => do
        let (gs, args) ← letters flags args cs
        return ((f.key, []) :: gs, args)
      | .maybe => .ok ([(f.key, cs)], args)
      | .value =>
        if !cs.isEmpty then .ok ([(f.key, cs)], args)
        else
          match args with
          | a :: args => .ok ([(f.key, a)], args)
          | [] => .error ("option requires an argument -- '".toList ++ [c, '\''])

/-- a word with its value, which may be the next argument: the option, and the arguments that are left -/
def long (flags : List Flag) (args : List Octets) (cs : Octets) :
    Except Octets ((String × Octets) × List Octets) := do
  let (word, value) := match Text.cutAt? ['='] cs with
    | some (w, v) => (w, some v)
    | none => (cs, none)
  let f ← wordOf flags word
  match f.takes, value with
  | .nothing, some _ => .error ("option ".toList ++ shown f.word.toList ++ " doesn't allow an argument".toList)
  | .value, none =>
    match args with
    | a :: args => return ((f.key, a), args)
    | [] => .error ("option ".toList ++ shown f.word.toList ++ " requires an argument".toList)
  | _, v => return ((f.key, v.getD []), args)

/-- the options among arguments; in order, nothing is an option after the first operand -/
def readFrom (flags : List Flag) (inOrder : Bool) (o : Options) : Nat → List Octets → Except Octets Options
  | 0, _ => .ok o
  | _, [] => .ok o
  | fuel + 1, a :: as =>
    match a with
    | ['-', '-'] => .ok { o with operands := o.operands ++ as }
    | '-' :: '-' :: cs => do
      let (g, as) ← long flags as cs
      readFrom flags inOrder { o with given := o.given ++ [g] } fuel as
    | '-' :: c :: cs => do
      let (gs, as) ← letters flags as (c :: cs)
      readFrom flags inOrder { o with given := o.given ++ gs } fuel as
    | a =>
      if inOrder then .ok { o with operands := o.operands ++ a :: as }
      else readFrom flags inOrder { o with operands := o.operands ++ [a] } fuel as

/-- the options among arguments, or what is wrong with them -/
def read (flags : List Flag) (args : List Octets) (inOrder : Bool := false) : Except Octets Options :=
  readFrom flags inOrder {} args.length args

example : (read [.on 'a', .valued 'n' "lines"] ["-an5".toList, "x".toList, "--li=3".toList]).toOption =
    some { given := [("a", []), ("n", ['5']), ("n", ['3'])], operands := [['x']] } := by decide +kernel

end Options

/-! ## programs with options -/

/-- a complaint about arguments, and where help is found -/
def Setting.misuse (s : Setting) (name text : Octets) : Act Unit := do
  s.complaint name text
  s.complain ("Try '".toList ++ name ++ " --help' for more information.".toList)

/-- a complaint, and the status of a program that ends with it -/
def Setting.fail (s : Setting) (name text : Octets) (status : Nat := 1) : Act Nat := do
  s.complaint name text
  return status

/-- a complaint about arguments, and the status of a program that ends with it -/
def Setting.refuse (s : Setting) (name text : Octets) (status : Nat := 1) : Act Nat := do
  s.misuse name text
  return status

/-- a program, by what it does with its options; others are refused with a status -/
def withOptions (flags : List Flag) (body : Launcher → Setting → Octets → Options → Act Nat)
    (status : Nat := 1) (inOrder : Bool := false) : Program := fun launcher s name args =>
  match Options.read flags args inOrder with
  | .ok o => body launcher s name o
  | .error e => s.refuse name e status

/-- an operand that is too much -/
def extraOperand (cs : Octets) : Octets := "extra operand ".toList ++ Octets.quoted cs

/-! ## numbers -/

/-- the number with which a letter multiplies -/
def unitOf? (cs : Octets) : Option Nat :=
  match String.ofList cs with
  | "" => some 1
  | "b" => some 512
  | "K" | "k" | "KiB" => some 1024
  | "kB" | "KB" => some 1000
  | "M" | "m" | "MiB" => some (1024 ^ (2 : Nat))
  | "MB" => some (1000 ^ (2 : Nat))
  | "G" | "GiB" => some (1024 ^ (3 : Nat))
  | "GB" => some (1000 ^ (3 : Nat))
  | "T" | "TiB" => some (1024 ^ (4 : Nat))
  | "TB" => some (1000 ^ (4 : Nat))
  | _ => none

/-- a natural number, perhaps with a unit -/
def size? (cs : Octets) : Option Nat :=
  let ds := cs.takeWhile Char.isDigit
  match Octets.natural? ds, unitOf? (cs.drop ds.length) with
  | some n, some u => some (n * u)
  | _, _ => none

end Debate.Shell
