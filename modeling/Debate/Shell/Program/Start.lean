import Debate.Shell.Condition
import Debate.Shell.Process
import Debate.Shell.Program.Order
import Debate.Shell.Program.Print

/-!
# Starting other programs, and small programs

* `env`, `nohup`, `timeout`, `xargs`   start a program in another setting, for some time, or with arguments
  that are read;
* `sleep`, `yes`                       let time pass, or never end;
* `basename`, `dirname`                parts of a path;
* `printenv`, `workingDirectory`       what a program is given;
* `echoProgram`, `printfProgram`, `testProgram`   print, and answer, like the commands of the shell.
-/

namespace Debate.Shell

open Debate.Files Debate.Number

/-! ## printing and answering -/

/-- the arguments, perhaps after options -/
def echoProgram : Program := fun _ s _ args => do
  s.say (echoWithOptions args)
  return 0

/-- the arguments as a format says -/
def printfProgram : Program := fun _ s name args => do
  let args := match args with
    | ['-', '-'] :: as => as
    | as => as
  match args with
  | [] => s.refuse name "missing operand".toList
  | format :: args => do
    let p := printf .ofProgram format args
    for c in p.complaints.reverse do
      s.complaint name c
    s.say p.text.reverse.flatten
    match p.args with
    | a :: _ =>
      if !p.ended then
        s.complaint name ("warning: ignoring excess arguments, starting with ".toList ++ Octets.quoted a)
    | [] => pure ()
    return if p.wrong ∨ p.failed then 1 else 0

/-- the words in which a mistake in a condition is complained about -/
def conditionWords (args : List Octets) (e : Octets) : Octets :=
  let mark := "Illegal number: ".toList
  if mark.isPrefixOf e then "invalid integer ".toList ++ Octets.quoted (e.drop mark.length)
  else
    match args with
    | [a, b] =>
      if a.head? = some '-' ∧ a.length = 2 then Octets.quoted a ++ ": unary operator expected".toList
      else "missing argument after ".toList ++ Octets.quoted b
    | [_, b, _] => Octets.quoted b ++ ": binary operator expected".toList
    | args => "extra argument ".toList ++ Octets.quoted (args.getLast?.getD [])

/-- whether a condition holds -/
def testProgram (bracketed : Bool) : Program := fun _ s name args => do
  if bracketed ∧ args.getLast? ≠ some [']'] then s.fail name ("missing ".toList ++ Octets.quoted [']']) 2
  else
    let args := if bracketed then args.dropLast else args
    let halved := match args with
      | [a, _] => a ≠ ['!'] && Condition.kind? a ≠ some Condition.Kind.unary
      | _ => false
    let m ← get
    let answer := if halved then Except.error [] else Condition.evaluate m s.here s.numbers args
    match answer with
    | .ok b => return if b then 0 else 1
    | .error e => s.fail name (conditionWords args e) 2

/-! ## time -/

/-- how many seconds a text means, with a unit or without -/
def duration? (cs : Octets) : Option Double := do
  let (x, rest) ← Numeral.double cs
  let unit ← match rest with
    | [] | ['s'] => some 1
    | ['m'] => some 60
    | ['h'] => some 3600
    | ['d'] => some 86400
    | _ => none
  if Double.lt x .zero then none
  else
    match x with
    | .undefined => none
    | x => some (if unit = 1 then x else Double.mul x (.ofInt unit))

/-- time passes -/
def sleep : Program := withOptions [] fun _ s name o => do
  if o.operands.isEmpty then s.refuse name "missing operand".toList
  else do
    let wrong := o.operands.filter fun a => (duration? a).isNone
    match wrong.getLast? with
    | some last => do
      for a in wrong.dropLast do
        s.complaint name ("invalid time interval ".toList ++ Octets.quoted a)
      s.refuse name ("invalid time interval ".toList ++ Octets.quoted last)
    | none => do
      for a in o.operands do
        if let some x := duration? a then pass x
      return 0

/-- whether results go through a pipe -/
def feedsPipe (s : Setting) : Act Bool := do
  match (s.numbers.find? 1).map (← get).channel with
  | some (.pipe _) => return true
  | _ => return false

/-- a text that is written again and again, until nobody reads it -/
def repeatedly (s : Setting) (cs : Octets) : Nat → Act Unit
  | 0 => do if ← feedsPipe s then Act.halt .unread else passForever
  | fuel + 1 => do
    s.say cs
    repeatedly s cs fuel

/-- the arguments, or a letter, again and again -/
def yes : Program := withOptions [] fun _ s _ o => do
  let line := (if o.operands.isEmpty then ['y'] else spaced o.operands) ++ ['\n']
  repeatedly s (List.replicate (1 + 4000 / line.length) line).flatten 80
  return 0

/-! ## paths -/

/-- a path without slashes at its end; one that is made of slashes is one slash -/
def withoutSlashes (cs : Octets) : Octets :=
  let short := (cs.reverse.dropWhile (· = '/')).reverse
  if short.isEmpty ∧ !cs.isEmpty then ['/'] else short

/-- the last part of a path -/
def baseOf (cs : Octets) : Octets :=
  let short := withoutSlashes cs
  if short = ['/'] then short else (short.reverse.takeWhile (· ≠ '/')).reverse

/-- a name without an ending, unless it is nothing else -/
def withoutEnding (ending cs : Octets) : Octets :=
  if ending.isSuffixOf cs ∧ ending.length < cs.length then cs.take (cs.length - ending.length) else cs

/-- what stands in front of the last part of a path -/
def directoryOf (cs : Octets) : Octets :=
  let short := withoutSlashes cs
  if short = ['/'] then short
  else
    let front := short.reverse.dropWhile (· ≠ '/')
    if front.isEmpty then ['.'] else withoutSlashes front.reverse

/-- the last parts of paths -/
def basename : Program := withOptions [.on 'a' "multiple", .valued 's' "suffix", .on 'z' "zero"]
    (fun _ s name o => do
  let mark := if o.has "z" then '\x00' else '\n'
  let several := o.has "a" || o.has "s"
  match o.operands with
  | [] => s.refuse name "missing operand".toList
  | p :: more =>
    if several then do
      for p in o.operands do
        s.say (withoutEnding ((o.last? "s").getD []) (baseOf p) ++ [mark])
      return 0
    else
      match more with
      | _ :: extra :: _ => s.refuse name (extraOperand extra)
      | more => do
        let base := baseOf p
        s.say ((if base = ['/'] then base else withoutEnding (more.headD []) base) ++ [mark])
        return 0) 1 true

/-- what stands in front of the last parts of paths -/
def dirname : Program := withOptions [.on 'z' "zero"] fun _ s name o => do
  if o.operands.isEmpty then s.refuse name "missing operand".toList
  else do
    for p in o.operands do
      s.say (directoryOf p ++ [if o.has "z" then '\x00' else '\n'])
    return 0

/-! ## what a program is given -/

/-- the path of a place -/
def placeText (p : Place) : Octets :=
  match p with
  | "/" :: names => '/' :: ['/'].intercalate (names.map Octets.ofString)
  | names => "/work".toList ++ names.flatMap fun n => '/' :: Octets.ofString n

/-- the directory at hand -/
def workingDirectory : Program := withOptions [.on 'L' "logical", .on 'P' "physical"] fun _ s _ _ => do
  s.sayLine ((s.value? "PWD".toList).getD (placeText s.here))
  return 0

/-- the values of variables -/
def printenv : Program := withOptions [.on '0' "null"] (fun _ s _ o => do
  let mark := if o.has "0" then '\x00' else '\n'
  if o.operands.isEmpty then
    for (n, v) in s.environment do
      s.say (n ++ '=' :: v ++ [mark])
    return 0
  else do
    let mut status := 0
    for n in o.operands do
      match s.value? n with
      | some v => s.say (v ++ [mark])
      | none => status := 1
    return status) 2

/-! ## starting others -/

/-- a program is started; if it cannot be, that is complained about -/
def startOther (launcher : Launcher) (s : Setting) (name : Octets) (what : String) (quote : Octets → Octets)
    (command : List Octets) : Act Nat := do
  match ← launcher s command with
  | .ok status => return status
  | .error e => do
    s.complaint name (what.toList ++ quote (command.headD []) ++ ": ".toList ++ errorText e)
    return if e = .missing then 127 else 126

/-- variables, and a program that is started with them -/
def env : Program := withOptions [.on 'i' "ignore-environment", .valued 'u' "unset", .on '0' "null",
    .valued 'C' "chdir"] (fun launcher s name o => do
  let operands := if o.operands.head? = some ['-'] then o.operands.tail else o.operands
  let empty := o.has "i" || o.operands.head? = some ['-']
  let given := if empty then [] else s.environment
  let given := given.filter fun v => !(o.all "u").contains v.1
  let settings := operands.takeWhile fun a => a.contains '='
  let environment := settings.foldl (fun vs a =>
    let n := a.takeWhile (· ≠ '=')
    vs.filter (fun v => v.1 ≠ n) ++ [(n, a.drop (n.length + 1))]) given
  match operands.drop settings.length with
  | [] => do
    for (n, v) in environment do
      s.say (n ++ '=' :: v ++ [if o.has "0" then '\x00' else '\n'])
    return 0
  | command => startOther launcher { s with environment } name "" Octets.quoted command) 125 true

/-- a program that goes on although nobody listens -/
def nohup : Program := withOptions [] (fun launcher s name o => do
  if o.operands.isEmpty then s.refuse name "missing operand".toList 125
  else startOther launcher s name "failed to run command " Octets.scriptQuoted o.operands) 125 true

/-- a program is stopped if it takes too long -/
def timeout : Program := withOptions [.valued 's' "signal", .valued 'k' "kill-after", .long "foreground",
    .long "preserve-status", .on 'v' "verbose"] (fun launcher s name o => do
  match o.operands with
  | [] | [_] => do
    s.complain ("Try '".toList ++ name ++ " --help' for more information.".toList)
    return 125
  | d :: command =>
    match duration? d with
    | none => s.refuse name ("invalid time interval ".toList ++ Octets.quoted d) 125
    | some seconds =>
      let signal := ((o.last? "s").map fun cs =>
        let cs := if "SIG".toList.isPrefixOf cs then cs.drop 3 else cs
        Signal.number? cs).getD (some 15)
      match signal with
      | none =>
        s.refuse name (Octets.quoted ((o.last? "s").getD []) ++ ": invalid signal".toList) 125
      | some signal => do
        let m ← get
        let limit := Double.add m.clock seconds
        let isFirst := !Double.isZero seconds && match m.deadline with
          | some before => Double.lt limit before
          | none => true
        let start := startOther launcher s name "failed to run command " Octets.quoted command
        if isFirst then
          set { m with deadline := some limit }
          let r ← Act.attempt start
          modify fun x => { x with deadline := m.deadline }
          match r with
          | .ok status => return status
          | .error .expired =>
            if signal = 9 then return 256 + 9
            else return if o.has "preserve-status" then 128 + signal else 124
          | .error h => throw h
        else start) 125 true

/-! ## arguments that are read -/

namespace Arguments

/-- how arguments are read -/
inductive Manner where
  /-- words between blanks, with quotes -/
  | words
  /-- texts between marks -/
  | marked (mark : Char)
  /-- lines, each of which is one argument -/
  | lines
  deriving DecidableEq, Repr

/-- words between blanks, or lines; a quote and a backslash keep what they keep: each word with whether a
line ends behind it -/
def words (byLine : Bool) : Nat → Option Octets → Octets → Except Octets (List (Octets × Bool))
  | 0, _, _ => .ok []
  | fuel + 1, word, cs =>
    let close (ended : Bool) (rest : Octets) : Except Octets (List (Octets × Bool)) := do
      match word with
      | some w => return (w.reverse, ended) :: (← words byLine fuel none rest)
      | none => words byLine fuel none rest
    match cs with
    | [] => .ok ((word.map fun w => (w.reverse, true)).toList)
    | '\\' :: c :: rest => words byLine fuel (some (c :: word.getD [])) rest
    | c :: rest =>
      if c = '\'' ∨ c = '"' then
        let inner := rest.takeWhile fun x => x ≠ c ∧ x ≠ '\n'
        match rest.drop inner.length with
        | x :: behind =>
          if x = c then words byLine fuel (some (inner.reverse ++ word.getD [])) behind else unmatched c
        | [] => unmatched c
      else if c = '\n' then close true rest
      else if Octets.isSpace c ∧ (!byLine ∨ word.isNone) then close false rest
      else words byLine fuel (some (c :: word.getD [])) rest
where
  /-- a quote without its end -/
  unmatched (c : Char) : Except Octets (List (Octets × Bool)) :=
    .error ("unmatched ".toList ++ (if c = '"' then "double" else "single").toList ++
      " quote; by default quotes are special to xargs unless you use the -0 option".toList)

/-- the arguments that a text holds -/
def read (m : Manner) (cs : Octets) : Except Octets (List (Octets × Bool)) :=
  match m with
  | .words => words false (cs.length + 1) none cs
  | .lines => words true (cs.length + 1) none cs
  | .marked mark =>
    let ps := Text.split [mark] cs
    .ok ((if ps.getLast? = some [] then ps.dropLast else ps).map fun p => (p, true))

/-- arguments in groups of so many -/
def groups (n : Nat) : Nat → List Octets → List (List Octets)
  | 0, _ => []
  | fuel + 1, as => if as.isEmpty then [] else as.take n :: groups n fuel (as.drop n)

/-- arguments in groups of so many lines -/
def byLines (n : Nat) (group : List Octets) (count : Nat) : List (Octets × Bool) → List (List Octets)
  | [] => if group.isEmpty then [] else [group]
  | (a, ended) :: as =>
    let group := group ++ [a]
    if ended ∧ count + 1 = n then group :: byLines n [] 0 as
    else byLines n group (if ended then count + 1 else count) as

/-- the options -/
def flags : List Flag := [.on '0' "null", .valued 'a' "arg-file", .valued 'd' "delimiter", .valued 'E',
  .valued 'I', { letter := some 'i', word := "replace", takes := .maybe }, .valued 'L' "max-lines",
  .valued 'n' "max-args", .on 'o', .valued 'P' "max-procs", .on 'p' "interactive", .on 'r' "no-run-if-empty",
  .valued 's' "max-chars", .on 't' "verbose", .on 'x' "exit"]

/-- commands that are started one after the other, and the status after them -/
def run (launcher : Launcher) (s : Setting) (name : Octets) (verbose : Bool) (status : Nat) :
    List (List Octets) → Act Nat
  | [] => return status
  | c :: cs => do
    if verbose then s.complain ([' '].intercalate (c.map Octets.scriptQuotedIfNeeded))
    let shown := c.headD []
    match ← launcher s c with
    | .error e => do
      s.complaint name (shown ++ ": ".toList ++ errorText e)
      return if e = .missing then 127 else 126
    | .ok n =>
      if 256 ≤ n then do
        s.complaint name (shown ++ ": terminated by signal ".toList ++ Octets.ofNat (n - 256))
        return 125
      else if n = 255 then do
        s.complaint name (shown ++ ": exited with status 255; aborting".toList)
        return 124
      else run launcher s name verbose (if n = 0 then status else 123) cs

end Arguments

open Arguments in
/-- a program is started with arguments that are read -/
def xargs : Program := withOptions Arguments.flags (fun launcher s name o => do
  let mark := match o.lastOf? ["0", "d"] with
    | some ("0", _) => some '\x00'
    | some (_, d) => (unescape { more := true } d).1.head?
    | none => none
  let pattern := match o.lastOf? ["I", "i", "L", "n"] with
    | some ("I", p) => some p
    | some ("i", p) => some (if p.isEmpty then "\x7b\x7d".toList else p)
    | _ => none
  let manner := match mark with
    | some c => Manner.marked c
    | none => if pattern.isSome then .lines else .words
  let wrong := ["n", "L"].findSome? fun k => (o.last? k).bind fun v =>
    match Octets.natural? v with
    | some 0 => some ("value ".toList ++ v ++ " for -".toList ++ k.toList ++ " option should be >= 1".toList)
    | some _ => none
    | none => some ("invalid number \"".toList ++ v ++ "\" for -".toList ++ k.toList ++ " option".toList)
  match wrong with
  | some e => s.refuse name e
  | none =>
    match ← s.contents ((o.last? "a").getD ['-']) with
    | .error e =>
      s.fail name ("Cannot open input file ".toList ++ Octets.quoted ((o.last? "a").getD []) ++ ": ".toList ++ errorText e)
    | .ok cs =>
      match Arguments.read manner cs with
      | .error e => s.fail name e
      | .ok found => do
        let nowhere ← newChannel .nowhere
        let s' := if (o.last? "a").isSome then s else { s with numbers := s.numbers.put 0 nowhere }
        let command := if o.operands.isEmpty then ["echo".toList] else o.operands
        let words := found.map (·.1)
        let commands := match pattern with
          | some p =>
            (words.filter fun w => !w.isEmpty).map fun w =>
              command.take 1 ++ (command.drop 1).map fun a => if p.isEmpty then a else Text.replaceAll p w a
          | none =>
            if words.isEmpty then (if o.has "r" then [] else [command])
            else
              let groups := match o.lastOf? ["n", "L"] with
                | some ("n", v) => Arguments.groups ((Octets.natural? v).getD 1) (words.length + 1) words
                | some (_, v) => byLines ((Octets.natural? v).getD 1) [] 0 found
                | none => [words]
              groups.map fun g => command ++ g
        run launcher s' name (o.has "t") 0 commands) 1 true

end Debate.Shell
