import Debate.Environment
import Debate.Files.Tree
import Debate.Shell.Builtin
import Debate.Shell.Expansion
import Debate.Shell.Programs

/-!
# Running a command

A command is the name of a program with arguments. Besides the programs themselves there is the shell,
which executes a script. Execution is bounded: a script that goes on beyond the bound is taken to go on
for ever. The parts of a pipeline run one after the other, but each starts at the same time.

* `World`           the files that commands work on, and the variables that they are given;
* `locateCommand`   what the name of a command means, or why it means nothing;
* `execute`         a statement;
* `launch`          a program with its arguments;
* `start`           the process of a command with its input, and the files after it.
-/

namespace Debate.Shell

open Debate.Files Debate.Number

/-- what commands find when they start -/
structure World where
  tree : Tree := {}
  /-- the directory at hand -/
  here : Place := []
  environment : Environment := {}
  deriving DecidableEq

/-! ## commands and their places -/

/-- what the name of a command means -/
inductive Meaning where
  | program (p : Program)
  | shell
  /-- a script in a file -/
  | script (text : Octets)

/-- the names of the shell -/
def shellNames : List String := ["sh", "dash"]

/-- the program of a name -/
def meaningOf? (name : String) : Option Meaning :=
  if shellNames.contains name then some .shell else (Programs.find? name).map .program

/-- the directories that hold programs -/
def programDirectories : List Place := [["/", "bin"], ["/", "usr", "bin"]]

/-- what the file at a path means as a command -/
def Machine.commandAt (m : Machine) (here : Place) (path : Octets) : Except FileError Meaning := do
  let place ← m.locate here path
  match m.tree.get? place with
  | some (.directory _) => .error .denied
  | some (.file bytes) =>
    if m.executables.contains place then .ok (.script (Octets.ofBytes bytes)) else .error .denied
  | none =>
    match (if programDirectories.contains place.dropLast then place.getLast?.bind meaningOf? else none) with
    | some meaning => .ok meaning
    | none => .error .missing

/-- what is found first of several paths; a path that may not be used is only reported at the end -/
def Machine.firstCommand (m : Machine) (here : Place) (trouble : FileError) : List Octets →
    Except FileError (Octets × Meaning)
  | [] => .error trouble
  | p :: ps =>
    match m.commandAt here p with
    | .ok meaning => .ok (p, meaning)
    | .error .missing | .error .notDirectory => m.firstCommand here trouble ps
    | .error e => m.firstCommand here (if trouble = .missing then e else trouble) ps

/-- the directories in which a command without a slash is searched -/
def usualPath : Octets := "/usr/local/sbin:/usr/local/bin:/usr/sbin:/usr/bin:/sbin:/bin".toList

/-- the path of a command, and what it means, or why it means nothing -/
def Machine.locateCommand (m : Machine) (here : Place) (path name : Octets) :
    Except FileError (Octets × Meaning) :=
  if name.contains '/' then (m.commandAt here name).map fun meaning => (name, meaning)
  else
    m.firstCommand here .missing ((Text.split [':'] path).map fun d =>
      if d.isEmpty then name else d ++ '/' :: name)

/-- the command that executes a script, as the script says in its first line -/
def interpreter? (text : Octets) : Option (List Octets) :=
  let isGap (c : Char) : Bool := c = ' ' || c = '\t'
  match text with
  | '#' :: '!' :: rest =>
    let line := (((rest.takeWhile (· ≠ '\n')).dropWhile isGap).reverse.dropWhile isGap).reverse
    let path := line.takeWhile fun c => !isGap c
    let argument := (line.drop path.length).dropWhile isGap
    if path.isEmpty then none else some (path :: if argument.isEmpty then [] else [argument])
  | _ => none

/-! ## ends -/

/-- the status of a process that was killed: larger than any that it could end with itself -/
def killedStatus (signal : Nat) : Nat := 256 + signal

/-- the status that a shell sees -/
def seenStatus (status : Nat) : Nat := if 256 ≤ status then 128 + (status - 256) else status

/-- a shell sees the end of a process; how it was killed is complained about -/
def seeEnd (status : Nat) : Sh Unit := do
  if 256 ≤ status then
    if let some w := Signal.wording? (status - 256) then put 2 (w.toList ++ ['\n'])
  setStatus (seenStatus status)

/-- what goes on for ever -/
def endless {α : Type} : Act α := do
  passForever
  throw .expired

/-- the time is set back, for what runs beside something else -/
def resetClock (t : Double) : Act Unit := modify fun m => { m with clock := t }

/-- how often functions may call each other before one of them ends -/
def maxCalls : Nat := 1000

/-- what became of the parts of a pipeline -/
structure Passed where
  /-- when the one that reads next ended -/
  first : Double
  /-- when the part itself ended -/
  own : Double := .infinite false
  latest : Double
  expired : Bool

/-- the end of a part is that of the one that reads for the part in front of it -/
def Passed.withFirst (p : Passed) : Passed := { p with first := p.own }

/-- how much is written by a part of a pipeline that would go on for ever if it was read -/
def floodSize : Nat := 65536

/-- the status after statements that were executed apart -/
def statusAfter (r : Except Jump Unit) (status : Nat) : Nat :=
  match r with
  | .error (.exit n) | .error (.ret n) => n
  | _ => status

/-- a statement that fails may end the shell -/
def checkExit (tested : Bool) : Sh Unit := do
  let s ← Sh.scope
  if s.options.exitOnError ∧ !tested ∧ s.status ≠ 0 then throw (.exit s.status)

/-! ## redirections -/

/-- why a file cannot be opened -/
def openingText (how : Opening) (e : FileError) : String :=
  match e with
  | .missing | .notDirectory => if how = .reading then "No such file" else "Directory nonexistent"
  | e => e.message

/-- what a number refers to from now on; false, after a complaint, if that cannot be -/
def redirect (e : Expander) : Redirection → Sh Bool
  | .file number how replacing w => do
    let path ← e.text w
    let s ← Sh.scope
    let m ← Sh.machine
    let stands := match m.stat s.here path with
      | .ok (.file _) => true
      | _ => false
    let refused := s.options.noClobber && how = .writing && !replacing && stands
    match (← if refused then pure (.error .exists) else Sh.act (openFile s.numbers s.here path how)) with
    | .ok c => do
      Sh.change fun s => { s with numbers := s.numbers.put number c }
      return true
    | .error err => do
      complain ((if how = .reading then "cannot open " else "cannot create ").toList ++ path ++
        ": ".toList ++ (openingText how err).toList)
      return false
  | .same number w => do
    let target ← e.text w
    let s ← Sh.scope
    match target with
    | ['-'] => do
      Sh.change fun s => { s with numbers := s.numbers.remove number }
      return true
    | [c] =>
      if c.isDigit then
        match s.numbers.find? (c.toNat - 48) with
        | some channel => do
          Sh.change fun s => { s with numbers := s.numbers.put number channel }
          return true
        | none => do
          complain (c :: ": Bad file descriptor".toList)
          return false
      else failure "Syntax error: Bad fd number".toList
    | _ => failure "Syntax error: Bad fd number".toList
  | .text number w => do
    let cs ← e.text w
    let c ← Sh.act (channelOf cs)
    Sh.change fun s => { s with numbers := s.numbers.put number c }
    return true

/-- what numbers refer to from now on -/
def redirectAll (e : Expander) : List Redirection → Sh Bool
  | [] => return true
  | r :: rs => do if ← redirect e r then redirectAll e rs else return false

/-- a step with redirections; without it, if they cannot be -/
def redirected (e : Expander) (rs : List Redirection) (x : Sh Unit) : Sh Unit := do
  let before := (← Sh.scope).numbers
  let restore : Sh Unit := Sh.change fun s => { s with numbers := before }
  if ← redirectAll e rs then
    match ← Sh.attempt x with
    | .ok () => restore
    | .error j => do
      restore
      throw j
  else do
    restore
    setStatus 2

/-! ## arguments of a shell -/

/-- what a shell is asked to do -/
structure Request where
  /-- a script is given as an argument, or comes through the input -/
  given : Bool := false
  input : Bool := false
  options : List (Char × Bool) := []
  named : List (Octets × Bool) := []
  rest : List Octets := []

/-- what the arguments of a shell ask for -/
def Request.ofArguments (r : Request) : List Octets → Request
  | [] => r
  | ['-', '-'] :: as => { r with rest := as }
  | ['-'] :: as => { r with rest := as }
  | ['-', 'o'] :: n :: as => ofArguments { r with named := r.named ++ [(n, true)] } as
  | ['+', 'o'] :: n :: as => ofArguments { r with named := r.named ++ [(n, false)] } as
  | ('-' :: cs) :: as =>
    ofArguments { r with
      given := r.given || cs.contains 'c'
      input := r.input || cs.contains 's'
      options := r.options ++ ((cs.filter fun c => c ≠ 'c').map fun c => (c, true)) } as
  | ('+' :: cs) :: as => ofArguments { r with options := r.options ++ cs.map fun c => (c, false) } as
  | as => { r with rest := as }

/-- variables that a shell knows from the start -/
def givenVariables (environment : List (Octets × Octets)) : List (Octets × Variable) :=
  let own : List (Octets × Variable) := [("IFS".toList, { value := some " \t\n".toList }),
    ("OPTIND".toList, { value := some ['1'] }), ("PS1".toList, { value := some "# ".toList }),
    ("PS2".toList, { value := some "> ".toList }), ("PS4".toList, { value := some "+ ".toList })]
  let exported := (environment.filter fun v => Octets.isName v.1).map fun (n, x) =>
    (n, { value := some x, exported := true : Variable })
  exported ++ own.filter fun v => !exported.any fun x => x.1 = v.1

/-- commands of the shell whose mistakes end it -/
def isSpecialName (name : Octets) : Bool := specialNames.contains (String.ofList name)

/-- the signal of a trap, with what is to be executed -/
def Scope.trap? (s : Scope) (name : String) : Option Octets :=
  (s.traps.find? fun t => t.1 = name).map (·.2)

/-- what a name means as a command is printed; false if it means nothing -/
def describe (name : Octets) (long : Bool) : Sh Bool := do
  let s ← Sh.scope
  let text := String.ofList name
  let line (cs : Octets) (kind : String) : Sh Bool := do
    say (if long then name ++ " is ".toList ++ kind.toList ++ ['\n'] else cs ++ ['\n'])
    return true
  if keywords.contains text then line name "a shell keyword"
  else if s.functions.any fun f => f.1 = name then line name "a shell function"
  else if isSpecialName name then line name "a special shell builtin"
  else if Builtin.names.contains text then line name "a shell builtin"
  else
    let path := (s.lookup? "PATH".toList).getD []
    match (← Sh.machine).locateCommand s.here path name with
    | .ok (found, _) => do
      say (if long then name ++ " is ".toList ++ found ++ ['\n'] else found ++ ['\n'])
      return true
    | .error _ => return false

/-- a command that cannot be started is complained about -/
def complainOf (name : Octets) (e : FileError) : Sh Unit := do
  match e with
  | .missing | .notDirectory => do
    complain (name ++ ": not found".toList)
    setStatus 127
  | e => do
    complain (name ++ ": ".toList ++ errorText e)
    setStatus 126

mutual

/-- statements in order -/
def executeAll : Nat → Bool → List Statement → Sh Unit
  | 0, _, _ => Sh.act endless
  | _, _, [] => return ()
  | fuel + 1, tested, [st] => execute fuel tested st
  | fuel + 1, tested, st :: sts => do
    execute fuel tested st
    executeAll fuel tested sts

/-- how the parts of words are expanded -/
def expander : Nat → Expander
  | 0 => { output := fun _ => Sh.act endless }
  | fuel + 1 => { output := fun body => capture fuel body }

/-- the results of statements that are executed apart -/
def capture : Nat → List Statement → Sh Octets
  | 0, _ => Sh.act endless
  | fuel + 1, body => do
    let pipe ← Sh.act (newPipe {})
    let channel ← Sh.act (newChannel (.pipe pipe))
    let status ← apart fuel false (Sh.change fun s => { s with numbers := s.numbers.put 1 channel }) body
    Sh.change fun s => { s with outputStatus := some (seenStatus status), status := seenStatus status }
    return (← Sh.machine).drained pipe

/-- statements that are executed apart, after a change: their status -/
def apart : Nat → Bool → Sh Unit → List Statement → Sh Nat
  | 0, _, _, _ => Sh.act endless
  | fuel + 1, tested, prepare, body => do
    let before ← Sh.scope
    Sh.change fun s => { s with traps := s.traps.filter fun t => t.2.isEmpty }
    let x : Sh Unit := do
      prepare
      executeAll fuel tested body
    let status ← finishing fuel x
    Sh.change fun _ => before
    return status

/-- a step, and what is executed at the end of the shell that takes it: the status -/
def finishing : Nat → Sh Unit → Sh Nat
  | 0, _ => Sh.act endless
  | fuel + 1, x => fun s => do
    match ← Act.attempt ((ExceptT.run x).run s) with
    | .error .unread => return (.ok (killedStatus 13), s)
    | .error h => throw h
    | .ok (r, s) =>
      let status := statusAfter r s.status % 256
      match s.trap? "EXIT" with
      | none => return (.ok status, s)
      | some action =>
        let s := { s with status, traps := s.traps.filter (·.1 ≠ "EXIT"), loops := 0 }
        let (r, s) ← (ExceptT.run (runText fuel false action)).run s
        return (.ok (match r with
          | .error (.exit n) => n
          | _ => status), s)

/-- a script is executed, line by line -/
def runSource : Nat → Bool → Source → Sh Unit
  | 0, _, _ => Sh.act endless
  | fuel + 1, tested, source => do
    match source.next with
    | .error mishap => do
      Sh.change fun s => { s with line := mishap.line }
      failure mishap.text.toList
    | .ok none => return ()
    | .ok (some (sts, source)) => do
      if (← Sh.scope).options.noExecute then runSource fuel tested source
      else do
        executeAll fuel tested sts
        runSource fuel tested source

/-- a text is executed as a script; without statements, the status is that before it -/
def runText : Nat → Bool → Octets → Sh Unit
  | 0, _, _ => Sh.act endless
  | fuel + 1, tested, cs => do
    let line := (← Sh.scope).line
    runSource fuel tested (.ofText cs)
    Sh.change fun s => { s with line }

/-- the parts of a pipeline: each starts at the same time, and reads what the one before has written. If a part
goes on to write after its reader has ended, it is run anew with a pipe that is closed then -/
def runStages : Nat → Bool → Double → Option Nat → List Statement → Sh Passed
  | 0, _, _, _, _ => Sh.act endless
  | _, _, start, _, [] => return { first := .infinite false, latest := start, expired := false }
  | fuel + 1, tested, start, input, st :: sts => do
    let before ← Sh.scope
    let machine ← Sh.machine
    let (pipe, passed) ← runStage fuel tested start none input st sts
    let written := (← Sh.machine).pipes[pipe]?
    match written with
    | some p =>
      if Double.lt passed.first p.latest then do
        Sh.change fun _ => before
        Sh.act (set machine)
        return (← runStage fuel tested start (some passed.first) input st sts).2.withFirst
      else return passed.withFirst
    | none => return passed.withFirst

/-- the first part of a pipeline, with a pipe that may be closed at a time, and then the others -/
def runStage : Nat → Bool → Double → Option Double → Option Nat → Statement → List Statement → Sh (Nat × Passed)
  | 0, _, _, _, _, _, _ => Sh.act endless
  | fuel + 1, tested, start, closes, input, st, sts => do
    let pipe ← Sh.act (newPipe { closes })
    let channel ← Sh.act (newChannel (.pipe pipe))
    Sh.act (resetClock start)
    let prepare : Sh Unit := Sh.change fun s =>
      let numbers := match input with
        | some c => s.numbers.put 0 c
        | none => s.numbers
      { s with numbers := if sts.isEmpty then numbers else numbers.put 1 channel }
    let before ← Sh.scope
    let x : Sh Nat := apart fuel tested prepare [st]
    let outcome : Except Halt Nat ← fun s => do
      match ← Act.attempt ((ExceptT.run x).run s) with
      | .ok (.ok n, s) => return (.ok (.ok n), s)
      | .ok (.error j, s) => return (.error j, s)
      | .error h => return (.ok (.error h), s)
    let now := (← Sh.machine).clock
    match outcome with
    | .error .expired => do
      Sh.change fun _ => before
      let floods := ((← Sh.machine).pipes[pipe]?.map fun p => decide (floodSize < p.size)).getD false
      if !floods then Sh.act (resetClock (.infinite false))
      Sh.act (closePipe pipe)
      let rest ← runStages fuel tested start (some channel) sts
      return (pipe, if floods then { rest with own := start } else { rest with own := now, expired := true })
    | .error h => Sh.act (throw h)
    | .ok status => do
      Sh.act (closePipe pipe)
      if sts.isEmpty then seeEnd status
      let rest ← runStages fuel tested start (some channel) sts
      return (pipe, { rest with own := now, latest := if Double.lt rest.latest now then now else rest.latest })

/-- a statement; one that is tested may fail -/
def execute : Nat → Bool → Statement → Sh Unit
  | 0, _, _ => Sh.act endless
  | fuel + 1, tested, st =>
    match st with
    | .command line assignments words rs => do
      Sh.change fun s => { s with line := s.shownLine line, outputStatus := none, tested }
      simple fuel assignments words rs
      checkExit tested
    | .pipeline sts => do
      let passed ← runStages fuel tested (← Sh.machine).clock none sts
      if passed.expired then Sh.act (throw .expired)
      Sh.act (resetClock passed.latest)
      checkExit tested
    | .negation s => do
      execute fuel true s
      Sh.change fun s => { s with status := if s.status = 0 then 1 else 0 }
    | .both a b => do
      execute fuel true a
      if (← Sh.scope).status = 0 then execute fuel tested b
    | .either a b => do
      execute fuel true a
      if (← Sh.scope).status ≠ 0 then execute fuel tested b
    | .background s => beside fuel tested s
    | .subshell line body rs => do
      Sh.change fun s => { s with line := s.shownLine line }
      redirected (expander fuel) rs do
        let status ← apart fuel tested (return ()) body
        seeEnd status
      checkExit tested
    | .group body rs => redirected (expander fuel) rs (executeAll fuel tested body)
    | .choice test yes no rs =>
      redirected (expander fuel) rs do
        executeAll fuel true test
        if (← Sh.scope).status = 0 then executeAll fuel tested yes
        else do
          setStatus 0
          executeAll fuel tested no
    | .loop untilSuccess test body rs =>
      redirected (expander fuel) rs do
        Sh.change fun s => { s with loops := s.loops + 1 }
        repeatWhile fuel untilSuccess 0 tested test body
        Sh.change fun s => { s with loops := s.loops - 1 }
    | .each line name words body rs => do
      Sh.change fun s => { s with line := s.shownLine line }
      redirected (expander fuel) rs do
        let values ← (expander fuel).words words
        Sh.change fun s => { s with loops := s.loops + 1 }
        setStatus 0
        repeatEach fuel name values tested body
        Sh.change fun s => { s with loops := s.loops - 1 }
    | .cases line w arms rs => do
      Sh.change fun s => { s with line := s.shownLine line }
      redirected (expander fuel) rs do
        let value ← (expander fuel).text w
        setStatus 0
        chooseArm fuel value tested arms
    | .function line name body => do
      Sh.change fun s => { s with
        functions := (name, line, body) :: s.functions.filter fun f => f.1 ≠ name
        status := 0 }

/-- a body that may end the round, or the loop: whether the loop goes on -/
def round : Nat → Bool → List Statement → Sh Bool
  | 0, _, _ => Sh.act endless
  | fuel + 1, tested, body => do
    let depth := (← Sh.scope).loops
    match ← Sh.attempt (executeAll fuel tested body) with
    | .ok () => return true
    | .error (.leave n) => do
      Sh.change fun s => { s with loops := depth }
      if 1 < n then do
        Sh.change fun s => { s with loops := depth - 1 }
        throw (.leave (n - 1))
      else return false
    | .error (.again n) => do
      Sh.change fun s => { s with loops := depth }
      if 1 < n then do
        Sh.change fun s => { s with loops := depth - 1 }
        throw (.again (n - 1))
      else return true
    | .error j => throw j

/-- a loop, from its test on; the status of the last round is kept -/
def repeatWhile : Nat → Bool → Nat → Bool → List Statement → List Statement → Sh Unit
  | 0, _, _, _, _, _ => Sh.act endless
  | fuel + 1, untilSuccess, status, tested, test, body => do
    if ← round fuel true test then
      if ((← Sh.scope).status = 0) = !untilSuccess then
        if ← round fuel tested body then
          repeatWhile fuel untilSuccess (← Sh.scope).status tested test body
        else return ()
      else setStatus status
    else return ()

/-- the body for each of the values -/
def repeatEach : Nat → Octets → List Octets → Bool → List Statement → Sh Unit
  | 0, _, _, _, _ => Sh.act endless
  | _, _, [], _, _ => return ()
  | fuel + 1, name, v :: vs, tested, body => do
    assign name v
    if ← round fuel tested body then repeatEach fuel name vs tested body else return ()

/-- the first arm with a pattern that a value fits -/
def chooseArm : Nat → Octets → Bool → List (List Word × List Statement) → Sh Unit
  | 0, _, _, _ => Sh.act endless
  | _, _, _, [] => return ()
  | fuel + 1, value, tested, (patterns, body) :: arms => do
    if ← fitsSome fuel value patterns then executeAll fuel tested body
    else chooseArm fuel value tested arms

/-- whether a value fits one of several patterns -/
def fitsSome : Nat → Octets → List Word → Sh Bool
  | 0, _, _ => Sh.act endless
  | _, _, [] => return false
  | fuel + 1, value, w :: ws => do
    let g := Glob.read (← (expander fuel).pattern w)
    if g.fits value then return true else fitsSome fuel value ws

/-- a statement that the next one does not wait for -/
def beside : Nat → Bool → Statement → Sh Unit
  | 0, _, _ => Sh.act endless
  | fuel + 1, tested, st => do
    let start := (← Sh.machine).clock
    let before ← Sh.scope
    let prepare : Sh Unit := do
      let c ← Sh.act (newChannel .nowhere)
      Sh.change fun s => { s with numbers := s.numbers.put 0 c }
    let x : Sh Nat := apart fuel tested prepare [st]
    let process ← Sh.act (modifyGet fun m => (m.nextProcess, { m with nextProcess := m.nextProcess + 1 }))
    let outcome : Except Halt Nat ← fun s => do
      match ← Act.attempt ((ExceptT.run x).run s) with
      | .ok (.ok n, s) => return (.ok (.ok n), s)
      | .ok (.error j, s) => return (.error j, s)
      | .error h => return (.ok (.error h), s)
    Sh.change fun _ => before
    let m ← Sh.machine
    let (ends, status) ← match outcome with
      | .ok n => pure (m.clock, seenStatus n)
      | .error .expired => pure (.infinite false, 0)
      | .error h => Sh.act (throw h)
    let holds := [1, 2].any fun n => (before.numbers.find? n).any fun c =>
      match m.channel c with
      | .stream _ => true
      | _ => false
    Sh.act (modify fun m => { m with
      clock := start
      lingering := if holds ∧ Double.lt m.lingering ends then ends else m.lingering })
    Sh.change fun s => { s with
      jobs := { process, ends, status } :: s.jobs, lastJob := some process, status := 0 }

/-- assignments in order -/
def assignAll : Nat → List (Octets × Word) → Sh (List (Octets × Octets))
  | 0, _ => Sh.act endless
  | _, [] => return []
  | fuel + 1, (name, w) :: more => do
    let value ← (expander fuel).assigned w
    return (name, value) :: (← assignAll fuel more)

/-- the words of a command; those of a declaration can be assignments, which are not cut -/
def commandWords : Nat → List Word → Sh (List Octets)
  | 0, _ => Sh.act endless
  | _, [] => return []
  | fuel + 1, w :: ws => do
    let e := expander fuel
    let first ← e.word w
    if Builtin.declarations.contains (String.ofList (first.headD [])) then
      let mut args := first
      for w in ws do
        match w.assignment? with
        | some (name, value) => args := args ++ [name ++ '=' :: (← e.assigned value)]
        | none => args := args ++ (← e.word w)
      return args
    else if first.isEmpty then commandWords fuel ws
    else return first ++ (← e.words ws)

/-- a command: its words and redirections are expanded first, then its assignments -/
def simple : Nat → List (Octets × Word) → List Word → List Redirection → Sh Unit
  | 0, _, _, _ => Sh.act endless
  | fuel + 1, assignments, words, rs => do
    let args ← commandWords fuel words
    let before := (← Sh.scope).numbers
    let restore : Sh Unit := Sh.change fun s => { s with numbers := before }
    let name := args.headD []
    if !(← redirectAll (expander fuel) rs) then do
      restore
      setStatus 2
      if isSpecialName name ∧ !args.isEmpty then throw .mistake
    else do
      let values ← assignAll fuel assignments
      let s ← Sh.scope
      if s.options.trace then
        let shown := values.map (fun (n, v) => n ++ '=' :: v) ++ args
        let start := (s.lookup? "PS4".toList).getD []
        match before.find? 2 with
        | some c => Sh.act (write c (start ++ spaced shown ++ ['\n']))
        | none => pure ()
      match args with
      | [] => do
        for (n, v) in values do
          assign n v
        setStatus (s.outputStatus.getD 0)
        restore
      | ['e', 'x', 'e', 'c'] :: rest => do
        for (n, v) in values do
          assign n v
        replace fuel rest
      | name :: rest => do
        let r ← Sh.attempt (perform fuel values false name rest)
        restore
        match r with
        | .ok () => pure ()
        | .error j => throw j

/-- a command with variables of its own: a function, a command of the shell, or a program -/
def perform : Nat → List (Octets × Octets) → Bool → Octets → List Octets → Sh Unit
  | 0, _, _, _, _ => Sh.act endless
  | fuel + 1, values, plain, name, args => do
    let s ← Sh.scope
    let own (x : Sh Unit) : Sh Unit := do
      let old := values.map fun (n, _) => (n, s.value? n)
      for (n, v) in values do
        assign n v
        Sh.change fun s => s.putVariable n { (s.value? n).getD {} with exported := true }
      let r ← Sh.attempt x
      for (n, v) in old do
        Sh.change fun s => match v with
          | some v => s.putVariable n v
          | none => s.removeVariable n
      match r with
      | .ok () => pure ()
      | .error j => throw j
    match (if plain then none else s.functions.find? fun f => f.1 = name) with
    | some (_, line, body) => own (call fuel line body args)
    | none =>
      let text := String.ofList name
      if Builtin.names.contains text then
        if isSpecialName name then do
          for (n, v) in values do
            assign n v
          byShell fuel plain name args
        else own (byShell fuel plain name args)
      else do
        let setting := { s.setting with
          environment := values ++ s.environment.filter fun v => !values.any fun x => x.1 = v.1 }
        external fuel setting name args

/-- a function -/
def call : Nat → Nat → Statement → List Octets → Sh Unit
  | 0, _, _, _ => Sh.act endless
  | fuel + 1, line, body, args => do
    let before ← Sh.scope
    if maxCalls ≤ before.calls then
      failure ("Maximum function recursion depth (".toList ++ Octets.ofNat maxCalls ++ ") reached".toList)
    Sh.change fun s => { s with
      arguments := args, functionLine := some line, loops := 0, calls := s.calls + 1
      locals := [] :: s.locals }
    let r ← Sh.attempt (execute fuel before.tested body)
    let own := (← Sh.scope).locals.headD []
    for (n, v) in own do
      Sh.change fun s => match v with
        | some v => s.putVariable n v
        | none => s.removeVariable n
    Sh.change fun s => { s with
      arguments := before.arguments, functionLine := before.functionLine, loops := before.loops
      calls := before.calls, locals := before.locals }
    match r with
    | .ok () => pure ()
    | .error (.ret n) => setStatus n
    | .error j => throw j

/-- a command of the shell -/
def byShell : Nat → Bool → Octets → List Octets → Sh Unit
  | 0, _, _, _ => Sh.act endless
  | fuel + 1, plain, name, args => do
    let outer := (← Sh.scope).command
    Sh.change fun s => { s with command := name }
    let leave : Sh Unit := Sh.change fun s => { s with command := outer }
    let x : Sh Unit := match String.ofList name with
      | "eval" => do
        let s ← Sh.scope
        let cs := spaced args
        if cs.all Octets.isSpace then setStatus 0
        else do
          setStatus s.status
          runText fuel s.tested cs
      | "." => sourceFile fuel args
      | "command" => do
        leave
        runPlainly fuel args
      | "type" => do
        let mut status := 0
        for a in args do
          if !(← describe a true) then
            say (a ++ ": not found\n".toList)
            status := 127
        setStatus status
      | "kill" => do
        let (status, own) ← Builtin.kill args
        setStatus status
        match own with
        | none => pure ()
        | some n => signal fuel n
      | name =>
        match Builtin.find? name with
        | some f => do setStatus (← f args)
        | none => pure ()
    match ← Sh.attempt x with
    | .ok () => leave
    | .error .mistake => do
      leave
      if isSpecialName name ∧ !plain then throw .mistake
    | .error j => do
      leave
      throw j

/-- a command that is no function -/
def runPlainly : Nat → List Octets → Sh Unit
  | 0, _ => Sh.act endless
  | fuel + 1, args => do
    match args with
    | [] => setStatus 0
    | ['-', 'v'] :: names => do
      match names with
      | [] => setStatus 0
      | n :: _ => setStatus (if ← describe n false then 0 else 127)
    | ['-', 'V'] :: names => do
      match names with
      | [] => setStatus 0
      | n :: _ => do
        if ← describe n true then setStatus 0
        else do
          say (n ++ ": not found\n".toList)
          setStatus 127
    | ['-', 'p'] :: rest => runPlainly fuel rest
    | ['-', '-'] :: rest => runPlainly fuel rest
    | ['e', 'x', 'e', 'c'] :: rest => replace fuel rest
    | name :: rest => perform fuel [] true name rest

/-- a script in a file is executed -/
def sourceFile : Nat → List Octets → Sh Unit
  | 0, _ => Sh.act endless
  | fuel + 1, args => do
    match args with
    | [] => setStatus 0
    | name :: _ => do
      let s ← Sh.scope
      if !name.contains '/' then failure (name ++ ": not found".toList)
      match ← Sh.act (s.setting.contents name) with
      | .error e => failure ("cannot open ".toList ++ name ++ ": ".toList ++ (openingText .reading e).toList)
      | .ok cs => do
        Sh.change fun s => { s with command := [], status := 0 }
        match ← Sh.attempt (runText fuel false cs) with
        | .error (.ret n) => setStatus n
        | .error j => throw j
        | .ok () => pure ()

/-- a signal comes to the shell -/
def signal : Nat → Nat → Sh Unit
  | 0, _ => Sh.act endless
  | fuel + 1, n => do
    let s ← Sh.scope
    let action := (Signal.name? n).bind s.trap?
    match (if n = 9 then none else action) with
    | some action => do
      let status := s.status
      runText fuel false action
      setStatus status
    | none =>
      if Signal.isHarmless n then return ()
      else if Signal.stops n then Sh.act endless
      else Sh.act (throw (.killed s.process n))

/-- a program takes the place of the shell -/
def replace : Nat → List Octets → Sh Unit
  | 0, _ => Sh.act endless
  | fuel + 1, args => do
    match args with
    | [] => setStatus 0
    | name :: rest => do
      let s ← Sh.scope
      Sh.change fun s => { s with command := "exec".toList }
      let mut status := 0
      match ← Sh.act (launch fuel s.setting (name :: rest)) with
      | .ok n => status := n
      | .error e => do
        complainOf name e
        status := (← Sh.scope).status
      Sh.change fun s => { s with traps := [] }
      if 256 ≤ status then Sh.act (throw (.killed s.process (status - 256)))
      else throw (.exit status)

/-- a program is started and waited for -/
def external : Nat → Setting → Octets → List Octets → Sh Unit
  | 0, _, _, _ => Sh.act endless
  | fuel + 1, setting, name, args => do
    match ← Sh.act (launch fuel setting (name :: args)) with
    | .ok status => seeEnd status
    | .error e => complainOf name e

/-- a program with its arguments: the status with which it ends, or why it cannot be started -/
def launch : Nat → Setting → List Octets → Act (Except FileError Nat)
  | 0, _, _ => endless
  | _, _, [] => return .error .missing
  | fuel + 1, setting, name :: args => do
    let path := (setting.value? "PATH".toList).getD usualPath
    match (← get).locateCommand setting.here path name with
    | .error e => return .error e
    | .ok (_, .program p) => do
      match ← Act.attempt (p (fun s a => launch fuel s a) setting name args) with
      | .ok n => return .ok n
      | .error .unread => return .ok (killedStatus 13)
      | .error h => throw h
    | .ok (_, .shell) => return .ok (← shell fuel setting name args)
    | .ok (found, .script text) =>
      match interpreter? text with
      | some command => launch fuel setting (command ++ found :: args)
      | none => return .ok (← shell fuel setting "sh".toList (found :: args))

/-- the shell with its arguments -/
def shell : Nat → Setting → Octets → List Octets → Act Nat
  | 0, _, _, _ => endless
  | fuel + 1, setting, name, args => do
    let process ← modifyGet fun m => (m.nextProcess, { m with nextProcess := m.nextProcess + 1 })
    let request := ({} : Request).ofArguments args
    let scope : Scope := {
      name, process, numbers := setting.numbers, here := setting.here, line := 0
      held := givenVariables setting.environment }
    let begin (name : Octets) (arguments : List Octets) : Sh Unit := Sh.change fun s =>
      { s with name, arguments, line := 1 }
    let x : Sh Unit := do
      for (c, b) in request.options do
        Builtin.setOption c b
      for (n, b) in request.named do
        match Builtin.optionLetter? n with
        | some c => Builtin.setOption c b
        | none => failure ("Illegal option -o ".toList ++ n)
      if request.given then
        match request.rest with
        | [] => failure "-c requires an argument".toList
        | script :: rest => do
          begin (rest.headD name) rest.tail
          runText fuel false script
      else
        match (if request.input then [] else request.rest) with
        | [] => do
          begin name request.rest
          match setting.numbers.find? 0 with
          | some c => do
            let script ← Sh.act (readAll c)
            runText fuel false script
          | none => pure ()
        | file :: rest => do
          match ← Sh.act (setting.contents file) with
          | .ok cs => do
            begin file rest
            runText fuel false cs
          | .error e => do
            failure ("cannot open ".toList ++ file ++ ": ".toList ++ (openingText .reading e).toList)
    match ← Act.attempt ((finishing fuel x).run scope) with
    | .ok (.ok n, _) => return n
    | .ok (.error _, _) => return 2
    | .error (.killed p n) => if p = process then return killedStatus n else throw (.killed p n)
    | .error h => throw h

end

/-! ## processes -/

/-- how deep statements may nest, and how often loops may go round -/
def allowance : Nat := 60000

/-- pieces of output in the order of their times -/
def inOrder (ws : List Written) : List Written := ws.mergeSort fun a b => !(Double.lt b.after a.after)

/-- the process of a command with its input, and the files after it, or why it cannot be started; it is
stopped at its deadline, if it has one -/
def start (name : String) (args : List String) (input : List UInt8) (deadline : Option Double)
    (world : World) : Except FileError (Process × World) := do
  let name := Octets.ofString name
  let args := args.map Octets.ofString
  let pieces := if input.isEmpty then [] else [(Double.zero, Octets.ofBytes input)]
  let m : Machine := {
    tree := furnished world.tree
    pipes := #[{ ready := pieces }]
    channels := #[.pipe 0, .stream .results, .stream .complaints]
    deadline }
  let given := world.environment.bindings.map fun v => (Octets.ofString v.1, Octets.ofString v.2)
  let environment := given ++
    (if given.any fun v => v.1 = "PATH".toList then [] else [("PATH".toList, usualPath)])
  let setting : Setting := { numbers := [(0, 0), (1, 1), (2, 2)], here := world.here, environment }
  let _ ← m.locateCommand setting.here usualPath name
  let (r, m) := (ExceptT.run (launch allowance setting (name :: args))).run m
  let ended := if Double.lt m.clock m.lingering then m.lingering else m.clock
  let process (seconds : Double) (ending : Ending) : Process :=
    { written := inOrder m.written.reverse, seconds, ending }
  let world := { world with tree := unfurnished m.tree }
  match r with
  | .ok (.error e) => .error e
  | .ok (.ok n) =>
    return (process ended (if 256 ≤ n then .killed (n - 256) else .exited n), world)
  | .error .expired => return (process (deadline.getD (.infinite false)) (.exited 0), world)
  | .error (.killed _ n) => return (process ended (.killed n), world)
  | .error .unread => return (process ended (.killed 13), world)

end Debate.Shell
