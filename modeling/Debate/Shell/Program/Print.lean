import Debate.Number.Power
import Debate.Shell.Escape
import Debate.Shell.Format
import Debate.Shell.Numeral
import Debate.Shell.Setting

/-!
# Printing arguments

* `echo`, `echoWithOptions`   the arguments as they are, with escapes;
* `Printf`                    the words in which a program complains about its arguments;
* `printf`                    the arguments as a format says, which is used again as long as there are more.
-/

namespace Debate.Shell

open Debate.Number Debate.Number.Power

/-! ## as they are -/

/-- the escapes of texts that are printed as they are -/
def echoEscapes : Escapes := { zeroFirst := true, ends := true }

/-- arguments with blanks between them -/
def spaced (args : List Octets) : Octets := [' '].intercalate args

/-- what the shell prints of arguments -/
def echo (args : List Octets) : Octets :=
  let (newline, args) := match args with
    | ['-', 'n'] :: args => (false, args)
    | args => (true, args)
  let (cs, ended) := unescape echoEscapes (spaced args)
  if newline ∧ !ended then cs ++ ['\n'] else cs

/-- the options that the arguments start with: whether there is a line feed, and whether escapes count -/
def echoOptions (newline escapes : Bool) : List Octets → Bool × Bool × List Octets
  | [] => (newline, escapes, [])
  | a :: as =>
    match a with
    | '-' :: letters =>
      if letters ≠ [] ∧ letters.all fun c => c = 'n' ∨ c = 'e' ∨ c = 'E' then
        let set := letters.foldl (fun (s : Bool × Bool) c =>
          if c = 'n' then (false, s.2) else (s.1, c = 'e')) (newline, escapes)
        echoOptions set.1 set.2 as
      else (newline, escapes, a :: as)
    | _ => (newline, escapes, a :: as)

/-- what is printed of arguments that may start with options -/
def echoWithOptions (args : List Octets) : Octets :=
  let (newline, escapes, args) := echoOptions true false args
  let (cs, ended) := if escapes then unescape { echoEscapes with more := true } (spaced args)
    else (spaced args, false)
  if newline ∧ !ended then cs ++ ['\n'] else cs

/-! ## as a format says -/

/-- the words in which a program complains about its arguments -/
structure Printf where
  /-- the escapes of a format, and those of an argument -/
  format : Escapes
  argument : Escapes
  /-- an argument that is no number, and one that is only one at its start -/
  noNumber : Octets → Octets
  halfNumber : Octets → Octets
  outOfRange : Octets → Octets
  /-- a conversion that is not known, and one without its letter -/
  invalid : Octets → Octets
  missing : Octets
  /-- there is a conversion that quotes a text -/
  quotes : Bool := false
  /-- the status after such a conversion -/
  failure : Nat

/-- what was printed, what is to be complained about, and the arguments that are left -/
structure Printed where
  text : List Octets := []
  complaints : List Octets := []
  args : List Octets := []
  /-- an escape has ended the output, or a conversion is not known -/
  ended : Bool := false
  failed : Bool := false
  /-- an argument was used -/
  used : Bool := false
  wrong : Bool := false

namespace Printed

/-- more that is printed -/
def say (p : Printed) (cs : Octets) : Printed := { p with text := cs :: p.text }

/-- something that is complained about -/
def complain (p : Printed) (cs : Octets) : Printed := { p with complaints := cs :: p.complaints, wrong := true }

/-- the next argument, empty if there is none -/
def next (p : Printed) : Octets × Printed := (p.args.headD [], { p with args := p.args.tail, used := true })

/-- what is wrong with an argument after whose number something follows -/
def check (w : Printf) (arg rest : Octets) (none_ : Bool) (p : Printed) : Printed :=
  if none_ then (if arg.isEmpty then p else p.complain (w.noNumber arg))
  else if rest.isEmpty then p
  else p.complain (w.halfNumber arg)

/-- the next argument as an integer between two bounds -/
def nextInteger (w : Printf) (low high : Int) (p : Printed) : Int × Printed :=
  let (arg, p) := p.next
  match arg with
  | q :: c :: _ =>
    if q = '\'' ∨ q = '"' then (c.toNat, p)
    else read arg p
  | arg => read arg p
where
  /-- an argument as an integer -/
  read (arg : Octets) (p : Printed) : Int × Printed :=
    match Numeral.integer arg with
    | none => (0, check w arg arg true p)
    | some (n, rest) =>
      if n < low then (low, p.complain (w.outOfRange arg))
      else if high < n then (high, p.complain (w.outOfRange arg))
      else (n, check w arg rest false p)

/-- the next argument as a number with a point -/
def nextDouble (w : Printf) (p : Printed) : Double × Printed :=
  let (arg, p) := p.next
  match arg with
  | q :: c :: _ =>
    if q = '\'' ∨ q = '"' then (.ofInt c.toNat, p)
    else read arg p
  | arg => read arg p
where
  /-- an argument as a number with a point -/
  read (arg : Octets) (p : Printed) : Double × Printed :=
    match Numeral.double arg with
    | none => (.zero, check w arg arg true p)
    | some (x, rest) =>
      match x, arg.any Char.isDigit with
      | .infinite _, true => (x, p.complain (w.outOfRange arg))
      | _, _ => (x, check w arg rest false p)

/-- a size that is given, or asked for -/
def size (w : Printf) (s : Conversion.Size) (p : Printed) : Int × Printed :=
  match s with
  | .given n => (n, p)
  | .asked => nextInteger w (-(2 ^ (31 : Nat))) (2 ^ (31 : Nat) - 1) p

/-- a conversion with its sizes -/
def sized (w : Printf) (written : Conversion.Written) (p : Printed) : Conversion × Printed :=
  let (c, p) := match written.width with
    | some s =>
      let (n, p) := p.size w s
      (written.flags.withWidth n, p)
    | none => (written.flags, p)
  match written.precision with
  | some s =>
    let (n, p) := p.size w (s.getD (.given 0))
    (c.withPrecision n, p)
  | none => (c, p)

/-- what a conversion prints -/
def convert (w : Printf) (c : Conversion) (letter : Char) (p : Printed) : Printed :=
  if letter = 's' then
    let (arg, p) := p.next
    p.say (c.text arg)
  else if letter = 'c' then
    let (arg, p) := p.next
    p.say (({ c with precision := none }).text [arg.headD '\x00'])
  else if letter = 'q' then
    let (arg, p) := p.next
    p.say (Octets.scriptQuotedIfNeeded arg)
  else if letter = 'b' then
    let (arg, p) := p.next
    let (cs, ended) := unescape w.argument arg
    { p.say (c.text cs) with ended }
  else if letter = 'd' ∨ letter = 'i' then
    let (n, p) := p.nextInteger w (-(2 ^ (63 : Nat))) (2 ^ (63 : Nat) - 1)
    p.say (c.integer n)
  else if "ouxX".toList.contains letter then
    let (n, p) := p.nextInteger w (-(2 ^ (64 : Nat))) (2 ^ (64 : Nat) - 1)
    let n := (n % 2 ^ (64 : Nat)).toNat
    let c := { c with plus := false, space := false }
    p.say (c.natural (if letter = 'o' then 8 else if letter = 'u' then 10 else 16) (letter = 'X') n)
  else
    let (x, p) := p.nextDouble w
    p.say (c.float letter x)

/-- one use of a format -/
def once (w : Printf) : Nat → Octets → Printed → Printed
  | 0, _, p => p
  | _, [], p => p
  | fuel + 1, '%' :: '%' :: cs, p => once w fuel cs (p.say ['%'])
  | fuel + 1, '%' :: cs, p =>
    let (written, rest) := Conversion.read cs
    let (c, p) := p.sized w written
    match rest with
    | [] => { p.complain w.missing with ended := true, failed := true }
    | letter :: rest =>
      if "diouxXsbcfFeEgGaA".toList.contains letter ∨ (w.quotes ∧ letter = 'q') then
        let p := p.convert w c letter
        if p.ended then p else once w fuel rest p
      else
        let directive := '%' :: cs.take (cs.length - rest.length)
        { p.complain (w.invalid directive) with ended := true, failed := true }
  | fuel + 1, '\\' :: cs, p =>
    match escapeAt w.format cs with
    | some (_, true, _) => { p with ended := true }
    | some (xs, false, n) => once w fuel (cs.drop n) (p.say xs)
    | none => once w fuel cs (p.say ['\\'])
  | fuel + 1, c :: cs, p => once w fuel cs (p.say [c])

/-- a format is used again as long as there are arguments -/
def again (w : Printf) (format : Octets) : Nat → Printed → Printed
  | 0, p => p
  | fuel + 1, p =>
    let p := once w format.length format { p with used := false }
    if p.ended ∨ p.args.isEmpty ∨ !p.used then p else again w format fuel p

end Printed

/-- the arguments as a format says -/
def printf (w : Printf) (format : Octets) (args : List Octets) : Printed :=
  Printed.again w format (args.length + 1) { args }

/-- a text after a name and a colon -/
def Printf.about (cs : Octets) (text : String) : Octets := cs ++ ": ".toList ++ text.toList

/-- the words of the shell -/
def Printf.ofShell : Printf where
  format := {}
  argument := echoEscapes
  noNumber arg := about arg "expected numeric value"
  halfNumber arg := about arg "not completely converted"
  outOfRange arg := about arg "Numerical result out of range"
  invalid directive := about directive "invalid directive"
  missing := "missing format character".toList
  failure := 2

/-- the words of the program -/
def Printf.ofProgram : Printf where
  format := { more := true, ends := true }
  argument := { echoEscapes with more := true }
  noNumber arg := Octets.quoted arg ++ ": expected a numeric value".toList
  halfNumber arg := Octets.quoted arg ++ ": value not completely converted".toList
  outOfRange arg := Octets.quoted arg ++ ": Numerical result out of range".toList
  invalid directive := directive ++ ": invalid conversion specification".toList
  missing := "%: invalid conversion specification".toList
  quotes := true
  failure := 1

example : ((printf .ofShell "%s-%d;".toList ["a".toList, "7".toList, "b".toList]).text.reverse).flatten =
    "a-7;b-0;".toList := by decide +kernel

end Debate.Shell
