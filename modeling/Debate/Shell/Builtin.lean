import Debate.Number.Power
import Debate.Shell.Condition
import Debate.Shell.Glob
import Debate.Shell.Process
import Debate.Shell.Program.Print
import Debate.Shell.Scope

/-!
# Commands of the shell

What a shell does itself, without starting a program and without executing statements.

* `Builtin.find?`    the command of a name: what it does with its arguments, and its status;
* `Builtin.names`    the names of all commands of the shell.
-/

namespace Debate.Shell

open Debate.Files Debate.Number Debate.Number.Power

namespace Builtin

/-! ## arguments -/

/-- an option that is not known -/
def illegalOption {α : Type} (c : Char) : Sh α := failure ("Illegal option -".toList ++ [c])

/-- the letters of options that arguments start with, each known, and the other arguments -/
def options (known : List Char) : List Octets → Sh (List Char × List Octets)
  | ['-', '-'] :: as => return ([], as)
  | ('-' :: c :: cs) :: as => do
    match (c :: cs).find? fun c => !known.contains c with
    | some c => illegalOption c
    | none => do
      let (more, as) ← options known as
      return (c :: cs ++ more, as)
  | as => return ([], as)

/-- an argument as a natural number -/
def natural (cs : Octets) : Sh Nat := do
  match Octets.natural? cs with
  | some n => if n < 2 ^ (31 : Nat) then return n else failure ("Illegal number: ".toList ++ cs)
  | none => failure ("Illegal number: ".toList ++ cs)

/-- a text between single quotes, as it can be read again -/
def requoted (cs : Octets) : Octets :=
  ['\''] ++ cs.flatMap (fun c => if c = '\'' then "'\"'\"'".toList else [c]) ++ ['\'']

/-- names in order -/
def sortedNames {α : Type} (vs : List (Octets × α)) : List (Octets × α) :=
  vs.mergeSort fun a b => !(Octets.before b.1 a.1)

/-! ## variables -/

/-- an argument with a name that a variable can have -/
def named (a : Octets) : Sh (Octets × Option Octets) := do
  let name := a.takeWhile (· ≠ '=')
  if !Octets.isName name then failure (name ++ ": bad variable name".toList)
  else if name.length < a.length then return (name, some (a.drop (name.length + 1)))
  else return (name, none)

/-- variables are marked, perhaps with a new value; without names, those that are marked are shown -/
def mark (word : String) (isMarked : Variable → Bool) (set : Variable → Variable) (args : List Octets) :
    Sh Nat := do
  let (_, names) ← options ['p'] args
  if names.isEmpty then
    for (n, v) in sortedNames ((← Sh.scope).held.filter fun x => isMarked x.2) do
      say (word.toList ++ [' '] ++ n ++ (match v.value with
        | some x => '=' :: requoted x
        | none => []) ++ ['\n'])
  for a in names do
    let (n, value) ← named a
    if let some x := value then assign n x
    Sh.change fun s => s.putVariable n (set ((s.value? n).getD {}))
  return 0

/-- variables or functions are taken away -/
def unset (args : List Octets) : Sh Nat := do
  let (letters, names) ← options ['f', 'v'] args
  for n in names do
    if letters.contains 'f' then
      Sh.change fun s => { s with functions := s.functions.filter fun f => f.1 ≠ n }
    else do
      let (n, _) ← named n
      match (← Sh.scope).value? n with
      | some v =>
        if v.readOnly then failure (n ++ ": is read only".toList)
        else Sh.change fun s => s.removeVariable n
      | none => pure ()
  return 0

/-- variables that a function has of its own -/
def ownVariables (args : List Octets) : Sh Nat := do
  if (← Sh.scope).calls = 0 then failure "not in a function".toList
  for a in args do
    let (n, value) ← named a
    Sh.change fun s =>
      match s.locals with
      | l :: ls => { s with locals := ((n, s.value? n) :: l) :: ls }
      | [] => s
    if let some x := value then assign n x
  return 0

/-- the arguments are moved -/
def shift (args : List Octets) : Sh Nat := do
  let n ← match args with
    | [] => pure 1
    | a :: _ => natural a
  let s ← Sh.scope
  if s.arguments.length < n then failure "can't shift that many".toList
  else do
    Sh.change fun s => { s with arguments := s.arguments.drop n }
    return 0

/-- an option with a letter -/
def withOption (o : ShellOptions) (c : Char) (b : Bool) : Option ShellOptions :=
  match c with
  | 'e' => some { o with exitOnError := b }
  | 'u' => some { o with noUnset := b }
  | 'f' => some { o with noGlob := b }
  | 'n' => some { o with noExecute := b }
  | 'x' => some { o with trace := b }
  | 'v' => some { o with verbose := b }
  | 'a' => some { o with exportAll := b }
  | 'C' => some { o with noClobber := b }
  | 'b' | 'm' | 'I' | 'V' | 'E' | 'i' | 's' => some o
  | _ => none

/-- the letter of an option with a name -/
def optionLetter? (name : Octets) : Option Char :=
  match String.ofList name with
  | "errexit" => some 'e'
  | "nounset" => some 'u'
  | "noglob" => some 'f'
  | "noexec" => some 'n'
  | "xtrace" => some 'x'
  | "verbose" => some 'v'
  | "allexport" => some 'a'
  | "noclobber" => some 'C'
  | "notify" => some 'b'
  | "monitor" => some 'm'
  | "ignoreeof" => some 'I'
  | "vi" => some 'V'
  | "emacs" => some 'E'
  | "interactive" => some 'i'
  | "stdin" => some 's'
  | "nolog" | "debug" | "pipefail" => none
  | _ => none

/-- an option is set or taken away -/
def setOption (c : Char) (b : Bool) : Sh Unit := do
  match withOption (← Sh.scope).options c b with
  | some o => Sh.change fun s => { s with options := o }
  | none => illegalOption c

/-- the options at the start of arguments are set; what is left, if there is anything -/
def setOptions : List Octets → Sh (Option (List Octets))
  | [] => return none
  | ['-', '-'] :: as => return some as
  | ['-'] :: as => do
    Sh.change fun s => { s with options := { s.options with trace := false, verbose := false } }
    return if as.isEmpty then none else some as
  | ['-', 'o'] :: name :: as => do
    match optionLetter? name with
    | some c => setOption c true
    | none => failure ("Illegal option -o ".toList ++ name)
    setOptions as
  | ['+', 'o'] :: name :: as => do
    match optionLetter? name with
    | some c => setOption c false
    | none => failure ("Illegal option -o ".toList ++ name)
    setOptions as
  | ('-' :: cs) :: as => do
    for c in cs do
      setOption c true
    setOptions as
  | ('+' :: cs) :: as => do
    for c in cs do
      setOption c false
    setOptions as
  | as => return some as

/-- options and arguments are set; without any, the variables are shown -/
def set (args : List Octets) : Sh Nat := do
  if args.isEmpty then
    for (n, v) in sortedNames (← Sh.scope).held do
      match v.value with
      | some x => say (n ++ ['='] ++ requoted x ++ ['\n'])
      | none => pure ()
  else
    match ← setOptions args with
    | some as => Sh.change fun s => { s with arguments := as, optionPlace := 0 }
    | none => pure ()
  return 0

/-! ## reading -/

/-- a line with its escapes: each character, and whether it was escaped -/
def escapedLine (channel : Nat) (raw : Bool) : Nat → Act (Marked × Bool)
  | 0 => return ([], false)
  | fuel + 1 => do
    let line ← readLine channel
    let rec marks : Octets → Marked × Bool
      | [] => ([], false)
      | ['\\', '\n'] => ([], true)
      | '\\' :: c :: cs =>
        let r := marks cs
        ((c, true) :: r.1, r.2)
      | c :: cs =>
        let r := marks cs
        ((c, false) :: r.1, r.2)
    let (ms, joined) := if raw then (line.map fun c => (c, false), false) else marks line
    if joined then
      let (more, complete) ← escapedLine channel raw fuel
      return (ms ++ more, complete)
    else
      let complete := Octets.isTerminated line
      return (if complete then ms.dropLast else ms, complete)

/-- whether a character of a line separates fields -/
def separates (separators : Octets) (m : Char × Bool) : Bool := !m.2 && separators.contains m.1

/-- whether a character of a line is a blank that separates fields -/
def isGap (separators : Octets) (m : Char × Bool) : Bool := separates separators m && Octets.isSpace m.1

/-- the first so many fields of a line; the last one takes the rest -/
def lineFields (separators : Octets) : Nat → Marked → List Octets
  | 0, _ => []
  | n + 1, ms =>
    let ms := ms.dropWhile (isGap separators)
    if n = 0 then
      let body := (ms.reverse.dropWhile (isGap separators)).reverse
      let single := body.takeWhile fun m => !separates separators m
      let rest := body.drop single.length
      let one := rest.length = 1 ∨ (rest.length ≠ 0 ∧ rest.tail.all (isGap separators))
      [(if one then single else body).map (·.1)]
    else
      let field := ms.takeWhile fun m => !separates separators m
      let rest := (ms.drop field.length).dropWhile (isGap separators)
      let rest := match rest with
        | m :: more => if separates separators m then more.dropWhile (isGap separators) else rest
        | [] => []
      field.map (·.1) :: lineFields separators n rest

/-- the fields of a line become the values of variables -/
def read (args : List Octets) : Sh Nat := do
  let (raw, names) ← match args with
    | ['-', 'r'] :: names => pure (true, names)
    | ['-', 'p'] :: prompt :: names => do
      put 2 prompt
      pure (false, names)
    | ['-', '-'] :: names => pure (false, names)
    | ('-' :: c :: cs) :: names =>
      if (c :: cs).all (· = 'r') then pure (true, names) else illegalOption ((c :: cs).find? (· ≠ 'r') |>.getD c)
    | names => pure (false, names)
  if names.isEmpty then failure "arg count".toList
  let s ← Sh.scope
  match s.numbers.find? 0 with
  | none => return 1
  | some channel => do
    let (ms, complete) ← Sh.act do escapedLine channel raw (((← get).pieces channel) + 10000)
    let fs := lineFields s.separators names.length ms
    for (n, i) in names.zipIdx do
      let (n, _) ← named n
      assign n (fs[i]?.getD [])
    return if complete then 0 else 1

/-- the options in arguments, one at a time -/
def getopts (args : List Octets) : Sh Nat := do
  match args with
  | wanted :: name :: given => do
    let s ← Sh.scope
    let (silent, letters) := match wanted with
      | ':' :: cs => (true, cs)
      | cs => (false, cs)
    let all := if given.isEmpty then s.arguments else given
    let index := ((s.lookup? "OPTIND".toList).bind Octets.natural?).getD 1
    let place := if index = 1 ∧ s.optionPlace = 0 then 0 else s.optionPlace
    let finish (index : Nat) : Sh Nat := do
      assign "OPTIND".toList (Octets.ofNat index)
      Sh.change fun s => { s with optionPlace := 0 }
      assign name ['?']
      return 1
    match all[index - 1]? with
    | none => finish index
    | some word =>
      let start := place = 0
      if start ∧ (word.head? ≠ some '-' ∨ word = ['-']) then finish index
      else if start ∧ word = ['-', '-'] then finish (index + 1)
      else
        let place := if start then 1 else place
        let c := word[place]?.getD '?'
        let isLast := place + 1 = word.length
        let next := if isLast then index + 1 else index
        let after := if isLast then 0 else place + 1
        let put (index place : Nat) (value : Octets) (argument : Option Octets) : Sh Nat := do
          assign "OPTIND".toList (Octets.ofNat index)
          Sh.change fun s => { s with optionPlace := place }
          match argument with
          | some x => assign "OPTARG".toList x
          | none => Sh.change fun s => s.removeVariable "OPTARG".toList
          assign name value
          return 0
        match letters.findIdx? (· = c) with
        | none => do
          if !silent then Shell.put 2 ("Illegal option -".toList ++ [c, '\n'])
          put next after ['?'] (if silent then some [c] else none)
        | some i =>
          if c ≠ ':' ∧ letters[i + 1]? = some ':' then
            if !isLast then put (index + 1) 0 [c] (some (word.drop (place + 1)))
            else
              match all[index]? with
              | some value => put (index + 2) 0 [c] (some value)
              | none =>
                if silent then put (index + 1) 0 [':'] (some [c])
                else do
                  Shell.put 2 ("No arg for -".toList ++ [c] ++ " option\n".toList)
                  put (index + 1) 0 ['?'] none
          else put next after [c] (some [])
  | _ => failure "Usage: getopts optstring var [arg...]".toList

/-! ## directories -/

/-- the path of a directory, from the one in which everything starts -/
def pathOf (p : Place) : Octets :=
  match p with
  | "/" :: names => '/' :: ['/'].intercalate (names.map Octets.ofString)
  | names => "/work".toList ++ names.flatMap fun n => '/' :: Octets.ofString n

/-- another directory is at hand -/
def changeDirectory (args : List Octets) : Sh Nat := do
  let (_, args) ← options ['L', 'P'] args
  let s ← Sh.scope
  let target := match args with
    | [] => (s.lookup? "HOME".toList).getD []
    | a :: _ => if a = ['-'] then (s.lookup? "OLDPWD".toList).getD [] else a
  if target.isEmpty then return 0
  let m ← Sh.machine
  match m.locate s.here target with
  | .ok place =>
    if m.tree.isDirectory place then do
      let old := s.here
      Sh.change fun s => { s with here := place }
      Sh.change fun s => s.putVariable "OLDPWD".toList { value := some (pathOf old), exported := true }
      Sh.change fun s => s.putVariable "PWD".toList { value := some (pathOf place), exported := true }
      if args = [['-']] then say (pathOf place ++ ['\n'])
      return 0
    else failure ("can't cd to ".toList ++ target)
  | .error _ => failure ("can't cd to ".toList ++ target)

/-! ## signals and jobs -/

/-- what is executed on signals -/
def trap (args : List Octets) : Sh Nat := do
  let args := match args with
    | ['-', '-'] :: as => as
    | as => as
  let nameOf (n : Nat) : String := if n = 0 then "EXIT" else (Signal.name? n).getD (toString n)
  match args with
  | [] => do
    for (n, action) in (← Sh.scope).traps do
      say ("trap -- ".toList ++ requoted action ++ [' '] ++ n.toList ++ ['\n'])
    return 0
  | action :: signals => do
    let (action, signals) :=
      if (Octets.natural? action).isSome ∨ signals.isEmpty then (['-'], action :: signals)
      else (action, signals)
    for sig in signals do
      match Signal.number? sig with
      | none => do
        put 2 ("trap: ".toList ++ sig ++ ": bad trap\n".toList)
        setStatus 1
      | some n =>
        let name := nameOf n
        Sh.change fun s =>
          let others := s.traps.filter fun t => t.1 ≠ name
          { s with traps := if action = ['-'] then others else others ++ [(name, action)] }
    return if signals.any fun sig => (Signal.number? sig).isNone then 1 else 0

/-- the signal that the arguments of a command name, and the other arguments -/
def signalOf (args : List Octets) : Sh (Nat × List Octets) := do
  let number (cs : Octets) (fail : Sh Nat) : Sh Nat :=
    match Signal.number? cs with
    | some n => return n
    | none => fail
  match args with
  | ['-', 's'] :: name :: rest =>
    return (← number name (failure ("invalid signal number or name: ".toList ++ name)), rest)
  | ['-', '-'] :: rest => return (15, rest)
  | ('-' :: c :: cs) :: rest => return (← number (c :: cs) (illegalOption c), rest)
  | rest => return (15, rest)

/-- a signal is sent to processes; whether it was sent to this one -/
def kill (args : List Octets) : Sh (Nat × Option Nat) := do
  match args with
  | ['-', 'l'] :: rest => do
    match rest with
    | [] => say (Signal.names.flatMap fun n => n.toList ++ ['\n'])
    | n :: _ => do
      let k ← natural n
      match Signal.name? (if 128 < k then k - 128 else k) with
      | some name => say (name.toList ++ ['\n'])
      | none => failure ("invalid signal number or exit status: ".toList ++ n)
    return (0, none)
  | [] => failure ("Usage: kill [-s sigspec | -signum | -sigspec] [pid | job]... or\n" ++
      "kill -l [exitstatus]").toList
  | args => do
    let (n, targets) ← signalOf args
    if targets.isEmpty then failure ("Usage: kill [-s sigspec | -signum | -sigspec] [pid | job]... or\n" ++
      "kill -l [exitstatus]").toList
    let s ← Sh.scope
    let mut status := 0
    let mut own := false
    for t in targets do
      let job := match t with
        | '%' :: k => (Octets.natural? k).bind fun k => s.jobs[s.jobs.length - k]?
        | t => (Octets.natural? t).bind fun p => s.jobs.find? fun j => j.process = p
      if some s.process = Octets.natural? t ∨ t = ['0'] then own := true
      else
        match job with
        | some j => do
          let now := (← Sh.machine).clock
          if n ≠ 0 ∧ Double.lt now j.ends then
            Sh.change fun s => { s with jobs := s.jobs.map fun k =>
              if k.process = j.process then { k with ends := now, status := 128 + n } else k }
        | none => do
          complain "No such process\n".toList
          status := 1
    return (status, if own then some n else none)

/-- jobs are waited for -/
def wait (args : List Octets) : Sh Nat := do
  let s ← Sh.scope
  if args.isEmpty then
    for j in s.jobs do
      Sh.act (waitUntil j.ends)
    return 0
  else
    let mut status := 0
    for a in args do
      let job ← match a with
        | '%' :: k => pure ((Octets.natural? k).bind fun k => s.jobs[s.jobs.length - k]?)
        | a => do
          let p ← natural a
          pure (s.jobs.find? fun j => j.process = p)
      match job with
      | some j => do
        Sh.act (waitUntil j.ends)
        status := j.status
        if 128 < j.status then
          if let some w := Signal.wording? (j.status - 128) then put 2 (w.toList ++ ['\n'])
      | none => status := 127
    return status

/-! ## printing and testing -/

/-- a condition as a status -/
def condition (r : Except Octets Bool) : Sh Nat := do
  match r with
  | .ok b => return if b then 0 else 1
  | .error text => failure text

/-- arguments as a format says -/
def printFormat (args : List Octets) : Sh Nat := do
  let args ← match args with
    | ['-', '-'] :: as => pure as
    | ('-' :: c :: _) :: _ => illegalOption c
    | as => pure as
  match args with
  | [] => failure "usage: printf format [arg ...]".toList
  | format :: as => do
    let p := printf .ofShell format as
    for c in p.complaints.reverse do
      complain c
    say p.text.reverse.flatten
    if p.failed then
      setStatus 2
      throw .mistake
    return if p.wrong then 1 else 0

/-- octets are written, unless there is nowhere to write them to -/
def print (cs : Octets) : Sh Nat := do
  match (← Sh.scope).numbers.find? 1 with
  | some _ => do
    say cs
    return 0
  | none => do
    complain ((← Sh.scope).command ++ ": I/O error".toList)
    return 1

/-- the number of loops that are left, and how -/
def leaving (jump : Nat → Jump) (args : List Octets) : Sh Nat := do
  let n ← match args with
    | [] => pure 1
    | a :: _ => do
      let n ← natural a
      if n = 0 then failure ("Illegal number: ".toList ++ a) else pure n
  let s ← Sh.scope
  if s.loops = 0 then return 0
  else do
    setStatus 0
    throw (jump (min n s.loops))

/-- the status that an end is given -/
def statusOf (args : List Octets) : Sh Nat := do
  match args with
  | [] => return (← Sh.scope).status
  | a :: _ => natural a

/-- the command of a name; not those that execute statements or start programs -/
def find? (name : String) : Option (List Octets → Sh Nat) :=
  match name with
  | ":" | "true" => some fun _ => return 0
  | "false" => some fun _ => return 1
  | "echo" => some fun args => print (echo args)
  | "printf" => some printFormat
  | "test" => some fun args => do
    let s ← Sh.scope
    condition (Condition.evaluate (← Sh.machine) s.here s.numbers args)
  | "[" => some fun args => do
    let s ← Sh.scope
    condition (Condition.evaluateBracketed (← Sh.machine) s.here s.numbers args)
  | "cd" | "chdir" => some changeDirectory
  | "pwd" => some fun _ => do print (pathOf (← Sh.scope).here ++ ['\n'])
  | "shift" => some shift
  | "set" => some set
  | "unset" => some unset
  | "export" => some (mark "export" (·.exported) fun v => { v with exported := true })
  | "readonly" => some (mark "readonly" (·.readOnly) fun v => { v with readOnly := true })
  | "local" => some ownVariables
  | "read" => some read
  | "getopts" => some getopts
  | "trap" => some trap
  | "wait" => some wait
  | "umask" => some fun args => if args.isEmpty then print "0022\n".toList else return 0
  | "times" => some fun _ => print "0m0.000000s 0m0.000000s\n0m0.000000s 0m0.000000s\n".toList
  | "ulimit" => some fun _ => print "unlimited\n".toList
  | "alias" | "bg" | "fg" | "hash" | "jobs" | "unalias" => some fun _ => return 0
  | "break" => some (leaving .leave)
  | "continue" => some (leaving .again)
  | "exit" => some fun args => do throw (.exit ((← statusOf args) % 256))
  | "return" => some fun args => do throw (.ret (← statusOf args))
  | _ => none

/-- the names of all commands of the shell -/
def names : List String :=
  [".", ":", "[", "alias", "bg", "break", "cd", "chdir", "command", "continue", "echo", "eval", "exec",
    "exit", "export", "false", "fg", "getopts", "hash", "jobs", "kill", "local", "printf", "pwd", "read",
    "readonly", "return", "set", "shift", "test", "times", "trap", "true", "type", "ulimit", "umask",
    "unalias", "unset", "wait"]

/-- the commands whose arguments can be assignments -/
def declarations : List String := ["export", "readonly", "local"]

end Builtin

end Debate.Shell
