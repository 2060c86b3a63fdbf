import Debate.Shell.Report.Table
import Debate.Shell.Report.Lexer
import Debate.Shell.Setting

/-!
# Records, files and commands of scripts that report

A record is cut into its fields when one of them is asked for, and put together again when a field changes. What is printed is kept back until there is enough of it, or until a command starts that could
write something too.

* `Report.Session`, `Report.Reporting`     what is at hand while a script runs, and a step of it;
* `Report.Separator`, `Report.separated`   what stands between fields, and a text cut into fields;
* `Report.setRecord`, `Report.field`, `Report.setField`   the record and its fields;
* `Report.takeFrom`, `Report.nextRecord`   reading from a file or a command, and reading what the arguments name;
* `Report.emit`, `Report.flushAll`, `Report.close`   writing to files and commands.
-/

namespace Debate.Shell.Report

open Debate.Files Debate.Number

/-! ## what is at hand -/

/-- what records are read from -/
inductive Origin where
  /-- a file that the arguments name -/
  | main
  | file (path : Octets)
  | command (text : Octets)
  deriving DecidableEq, Repr

/-- something that is read: what was read, but not taken yet, and whether that is the end -/
structure Source where
  channel : Nat
  held : Octets := []
  ended : Bool := false
  /-- how a command ended -/
  status : Nat := 0

/-- something that is written to: a file through a channel, or a command, which starts when it is closed -/
structure Outlet where
  path : Octets
  channel : Option Nat
  /-- what is kept back, the last first -/
  pending : List Octets := []
  size : Nat := 0

/-- what a parameter of a function holds -/
inductive Slot where
  | value (v : Value)
  /-- an array, by its number -/
  | array (n : Nat)

instance : Inhabited Slot := ⟨.value .absent⟩

/-- what is at hand while a script runs -/
structure Session where
  setting : Setting
  launcher : Launcher
  name : Octets
  script : Script := {}
  shared : Array Value := #[]
  tables : Array Table := #[]
  own : Array Slot := #[]
  record : Value := .input []
  fields : Array Value := #[]
  /-- the fields are those of the record -/
  isCut : Bool := false
  sources : List (Origin × Source) := []
  /-- a file that the arguments name is being read; or no file is left -/
  current : Bool := false
  finished : Bool := false
  nextArgument : Nat := 1
  /-- an argument named a file -/
  named : Bool := false
  outlets : List Outlet := []
  pending : List Octets := []
  size : Nat := 0
  status : Nat := 0
  /-- the rules whose ranges are open -/
  openRanges : List Nat := []
  /-- expressions that were read from texts -/
  patterns : List (Octets × Regex) := []
  /-- where random numbers come from, and what they were started with -/
  random : Nat := 1
  seed : Double := one
  /-- how much more can be done, and how much deeper calls may nest -/
  steps : Nat := 300000
  depth : Nat := 1006

/-- the end of a script -/
inductive Stopped where
  | exit
  /-- something is wrong -/
  | failed
  deriving DecidableEq, Repr

/-- a step of a script, which may end it -/
abbrev Reporting (α : Type) := ExceptT Stopped (StateT Session Act) α

namespace Session

/-- the value of a shared variable -/
def value (s : Session) (n : Nat) : Value := (s.shared[n]?).getD .absent

/-- a shared variable as a text -/
def text (s : Session) (n : Nat) : Octets := (s.value n).toText "%.6g".toList

/-- a value as a text -/
def textOf (s : Session) (v : Value) : Octets :=
  match v with
  | .text cs | .input cs => cs
  | v => v.toText (s.text Given.textFormat)

/-- a shared variable gets a value -/
def put (s : Session) (n : Nat) (v : Value) : Session := { s with shared := s.shared.setIfInBounds n v }

/-- an array -/
def table (s : Session) (n : Nat) : Table := (s.tables[n]?).getD {}

/-- an array changes -/
def putTable (s : Session) (n : Nat) (t : Table) : Session := { s with tables := s.tables.setIfInBounds n t }

/-- an array, and everything without it -/
@[noinline] def take (s : Session) (n : Nat) : Table × Session := (s.table n, s.putTable n {})

/-- something is done with an array; it is taken out meanwhile, so that it need not be copied -/
def withTable {α : Type} (s : Session) (n : Nat) (f : Table → Table × α) : α × Session :=
  let (t, s) := s.take n
  let (t, x) := f t
  (x, s.putTable n t)

end Session

/-- a complaint -/
def complain (text : Octets) : Reporting Unit := do
  let s ← get
  s.setting.complaint s.name text

/-- a complaint that ends everything -/
def giveUp {α : Type} (text : Octets) : Reporting α := do
  complain text
  modify fun s => { s with status := 2 }
  throw .failed

/-- a complaint with the place in the files -/
def runFault {α : Type} (text : Octets) : Reporting α := do
  let s ← get
  giveUp ("run time error: ".toList ++ text ++ "\n\tFILENAME=\"".toList ++ s.text Given.fileName ++
    "\" FNR=".toList ++ s.text Given.fileRecordCount ++ " NR=".toList ++ s.text Given.recordCount)

/-- something more is done; what goes on and on never ends -/
def tick : Reporting Unit := do
  let s ← get
  match s.steps with
  | 0 => do
    passForever
    throw .failed
  | n + 1 => set { s with steps := n }

/-! ## writing -/

/-- how much is kept back at most -/
def pendingLimit : Nat := 4096

/-- what was kept back is printed -/
def flush : Reporting Unit := do
  let s ← get
  if !s.pending.isEmpty then
    set { s with pending := [], size := 0 }
    s.setting.say s.pending.reverse.flatten

/-- what was kept back is written to a file -/
def Outlet.flush (o : Outlet) : Reporting Outlet := do
  match o.channel with
  | some c => do
    write c o.pending.reverse.flatten
    return { o with pending := [], size := 0 }
  | none => return o

/-- everything that was kept back is printed and written -/
def flushAll : Reporting Unit := do
  flush
  let outlets ← (← get).outlets.mapM Outlet.flush
  modify fun s => { s with outlets }

/-- something is printed -/
def print (cs : Octets) : Reporting Unit := do
  let s ← get
  set { s with pending := cs :: s.pending, size := s.size + cs.length }
  if pendingLimit ≤ s.size + cs.length then flush

/-- the outlet of a file or a command, which is opened if it is not open -/
def outlet (d : Direction) (path : Octets) : Reporting Outlet := do
  let s ← get
  match s.outlets.find? fun o => o.path = path ∧ o.channel.isNone = (d = .command : Bool) with
  | some o => return o
  | none => do
    let opened ← if d = .command then do
        flushAll
        pure none
      else do
        let setting := (← get).setting
        match ← openFile setting.numbers setting.here path (if d = .append then .appending else .writing) with
        | .ok c => pure (some c)
        | .error e =>
          giveUp ("cannot open \"".toList ++ path ++ "\" for output (".toList ++ errorText e ++ ")".toList)
    let o : Outlet := { path, channel := opened }
    modify fun s => { s with outlets := o :: s.outlets }
    return o

/-- something is written to a file or a command -/
def emit (d : Direction) (path cs : Octets) : Reporting Unit := do
  if d ≠ .command ∧ path = "/dev/stdout".toList then print cs
  else if d ≠ .command ∧ path = "/dev/stderr".toList then (← get).setting.put 2 cs
  else do
    let o ← outlet d path
    let o := { o with pending := cs :: o.pending, size := o.size + cs.length }
    let o ← if pendingLimit ≤ o.size then o.flush else pure o
    modify fun s => { s with
      outlets := s.outlets.map fun x => if x.path = path ∧ x.channel = o.channel then o else x }

/-- a command runs with an input of its own or with that of the script; its status -/
def execute (input output : Option Nat) (command : Octets) : Reporting Nat := do
  let s ← get
  let numbers := s.setting.numbers
  let numbers := (input.map (numbers.put 0)).getD numbers
  let numbers := (output.map (numbers.put 1)).getD numbers
  match ← s.launcher { s.setting with numbers } ["/bin/sh".toList, "-c".toList, command] with
  | .ok status => return status
  | .error _ => return 127

/-- nothing more is written to an outlet; its status -/
def Outlet.finish (o : Outlet) : Reporting Nat := do
  match o.channel with
  | some _ => do
    let _ ← o.flush
    return 0
  | none => do
    let input ← channelOf o.pending.reverse.flatten
    execute (some input) none o.path

/-- outlets and sources of a name are closed; the status, if there is one -/
def close (path : Octets) : Reporting (Option Nat) := do
  let s ← get
  let outlet := s.outlets.find? fun o => o.path = path
  let source := s.sources.find? fun x => x.1 = Origin.file path ∨ x.1 = Origin.command path
  set { s with
    outlets := s.outlets.filter fun o => o.path ≠ path
    sources := s.sources.filter fun x => x.1 ≠ Origin.file path ∧ x.1 ≠ Origin.command path }
  match outlet, source with
  | some o, _ => return some (← o.finish)
  | none, some x => return some x.2.status
  | none, none => return none

/-- everything is closed: commands first, the last one before the others -/
def closeAll : Reporting Unit := do
  let s ← get
  set { s with outlets := s.outlets.filter fun o => o.channel.isSome }
  for o in s.outlets do
    if o.channel.isNone then
      let _ ← o.finish
  flushAll

/-! ## fields -/

/-- what stands between fields -/
inductive Separator where
  /-- blanks, also ends of lines -/
  | blanks
  /-- every octet is a field -/
  | nothing
  | char (c : Char)
  | regex (r : Regex)

/-- the expression that a text writes -/
def pattern (text : Octets) : Reporting Regex := do
  let s ← get
  match s.patterns.find? fun p => p.1 = text with
  | some p => return p.2
  | none =>
    match readPattern text with
    | .ok r => do
      set { s with patterns := (text, r) :: s.patterns.take 40 }
      return r
    | .error e => runFault e

/-- what a text says about what stands between fields -/
def separator? (text : Octets) : Reporting Separator := do
  match text with
  | [] => return .nothing
  | [' '] => return .blanks
  | [c] => return .char c
  | cs => return .regex (← pattern cs)

/-- the parts of a text between characters -/
def splitAt (c : Char) : Octets → List Octets
  | [] => [[]]
  | x :: xs =>
    match splitAt c xs with
    | [] => [[x]]
    | part :: parts => if x = c then [] :: part :: parts else (x :: part) :: parts

/-- a match that is not empty, at one of so many places -/
def searchInk (r : Regex) (s : Regex.Subject) : Nat → Nat → Option Found
  | 0, _ => none
  | n + 1, i =>
    match r.matchAt? s i with
    | some f => if f.start < f.stop then some f else searchInk r s n (i + 1)
    | none => searchInk r s n (i + 1)

/-- the parts of a text between matches that are not empty, from a place on -/
def splitAround (r : Regex) (s : Regex.Subject) (text : Array Char) : Nat → Nat → List Octets
  | 0, _ => []
  | fuel + 1, i =>
    match searchInk r s (text.size - i) i with
    | some f => (text.extract i f.start).toList :: splitAround r s text fuel f.stop
    | none => [(text.extract i text.size).toList]

/-- the words of a text -/
def wordsOf : Nat → Octets → List Octets
  | 0, _ => []
  | fuel + 1, cs =>
    match cs.dropWhile Octets.isSpace with
    | [] => []
    | cs =>
      let word := cs.takeWhile fun c => !Octets.isSpace c
      word :: wordsOf fuel (cs.drop word.length)

/-- a text cut into fields -/
def Separator.separated (p : Separator) (cs : Octets) : List Octets :=
  if cs.isEmpty then []
  else
    match p with
    | .blanks => wordsOf (cs.length + 1) cs
    | .nothing => cs.map fun c => [c]
    | .char c => splitAt c cs
    | .regex r => splitAround r { text := (units cs).toArray } cs.toArray (cs.length + 1) 0

/-- another record -/
def setRecord (v : Value) : Reporting Unit := modify fun s =>
  { s with record := v, isCut := false }

/-- the record is cut into its fields -/
def cut : Reporting Unit := do
  let s ← get
  if !s.isCut then
    let p ← separator? (s.text Given.fieldMark)
    let fields := ((p.separated (s.textOf s.record)).map Value.input).toArray
    modify fun s => { s with isCut := true, fields }.put Given.fieldCount (.number (.ofInt fields.size))

/-- a text between each two -/
def joinTexts (mark : Octets) : List Octets → Octets
  | [] => []
  | [x] => x
  | x :: xs => x ++ mark ++ joinTexts mark xs

/-- the record is put together from its fields -/
def rebuild : Reporting Unit := modify fun s =>
  { s with record := .input (joinTexts (s.text Given.outputFieldMark) (s.fields.toList.map s.textOf)) }

/-- a field; the field 0 is the record, and one behind the last is empty -/
def field (i : Nat) : Reporting Value := do
  if i = 0 then return (← get).record
  else do
    cut
    return ((← get).fields[i - 1]?).getD (.input [])

/-- there are so many fields -/
def resize (n : Nat) : Reporting Unit := modify fun s =>
  let fields := if n ≤ s.fields.size then s.fields.take n
    else s.fields ++ Array.replicate (n - s.fields.size) (Value.input [])
  { s with fields }.put Given.fieldCount (.number (.ofInt n))

/-- a field gets a value -/
def setField (i : Nat) (v : Value) : Reporting Unit := do
  if i = 0 then setRecord v
  else do
    cut
    if (← get).fields.size < i then resize i
    modify fun s => { s with fields := s.fields.setIfInBounds (i - 1) v }
    rebuild

/-- a shared variable gets a value, and what depends on it changes -/
def setShared (n : Nat) (v : Value) : Reporting Unit := do
  if n = Given.fieldCount then
    cut
    resize (v.toNumber.truncate.getD 0).toNat
    modify fun s => s.put n v
    rebuild
  else do
    if n = Given.fieldMark then cut
    modify fun s => s.put n v

/-- the value of a shared variable -/
def sharedValue (n : Nat) : Reporting Value := do
  if n = Given.fieldCount then cut
  return (← get).value n

/-! ## reading -/

/-- what stands between records -/
inductive RecordMark where
  | char (c : Char)
  /-- empty lines -/
  | gap
  | regex (r : Regex)

/-- more is read of a source -/
def Source.fill (x : Source) : Act Source := do
  let piece ← readPiece x.channel none false
  return { x with held := x.held ++ piece, ended := piece.isEmpty }

/-- a source is read up to its end -/
def Source.fillAll : Nat → Source → Act Source
  | 0, x => return x
  | fuel + 1, x => do
    if x.ended then return x else Source.fillAll fuel (← x.fill)

/-- the part in front of an empty line, and what follows the empty lines -/
def paragraph : Octets → Octets × Octets
  | '\n' :: '\n' :: cs => ([], cs.dropWhile (· = '\n'))
  | ['\n'] => ([], [])
  | c :: cs => let r := paragraph cs; (c :: r.1, r.2)
  | [] => ([], [])

/-- the next record of a source -/
def Source.take (mark : RecordMark) : Nat → Source → Act (Option Octets × Source)
  | 0, x => return (none, x)
  | fuel + 1, x =>
    match mark with
    | .char c => do
      let line := x.held.takeWhile (· ≠ c)
      match x.held.drop line.length with
      | _ :: rest => return (some line, { x with held := rest })
      | [] =>
        if !x.ended then Source.take mark fuel (← x.fill)
        else return (if line.isEmpty then none else some line, { x with held := [] })
    | .gap => do
      let x ← x.fillAll fuel
      match x.held.dropWhile (· = '\n') with
      | [] => return (none, { x with held := [] })
      | cs =>
        let (text, rest) := paragraph cs
        return (some text, { x with held := rest })
    | .regex r => do
      let x ← x.fillAll fuel
      if x.held.isEmpty then return (none, x)
      else
        match searchInk r { text := (units x.held).toArray } x.held.length 0 with
        | some f => return (some (x.held.take f.start), { x with held := x.held.drop f.stop })
        | none => return (some x.held, { x with held := [] })

/-- what stands between records now -/
def recordMark : Reporting RecordMark := do
  match (← get).text Given.recordMark with
  | [] => return .gap
  | [c] => return .char c
  | cs => return .regex (← pattern cs)

/-- the next record of a source that is open -/
def takeFrom (o : Origin) : Reporting (Option Octets) := do
  let mark ← recordMark
  match (← get).sources.find? fun x => x.1 = o with
  | none => return none
  | some (_, x) => do
    let (record, x) ← x.take mark ((← getThe Machine).pieces x.channel + 4)
    modify fun s => { s with sources := (o, x) :: s.sources.filter fun y => y.1 ≠ o }
    return record

/-- a source is opened -/
def openSource (o : Origin) (channel : Nat) (status : Nat) : Reporting Unit := do
  match (← getThe Machine).channel channel with
  | .directory => giveUp "read error (Is a directory)".toList
  | _ => modify fun s => { s with sources := (o, { channel, status }) :: s.sources.filter fun y => y.1 ≠ o }

/-- a file is opened, or why that is not possible; a hyphen stands for the input -/
def openPath (o : Origin) (path : Octets) : Reporting (Except FileError Unit) := do
  let s ← get
  let channel ← if path = ['-'] then pure (match s.setting.numbers.find? 0 with
      | some c => Except.ok c
      | none => .error .badDescriptor)
    else openFile s.setting.numbers s.setting.here path .reading
  match channel with
  | .error e => return .error e
  | .ok c => do
    openSource o c 0
    return .ok ()

/-- a file, from which records are taken one after the other; nothing if it cannot be opened -/
def fileSource (path : Octets) : Reporting (Option Origin) := do
  let o := Origin.file path
  if (← get).sources.any fun x => x.1 = o then return some o
  else
    match ← openPath o path with
    | .ok () => return some o
    | .error _ => return none

/-- what a command writes, from which records are taken one after the other -/
def commandSource (text : Octets) : Reporting Origin := do
  let o := Origin.command text
  if (← get).sources.any fun x => x.1 = o then return o
  else do
    flushAll
    let pipe ← newPipe {}
    let channel ← newChannel (.pipe pipe)
    let status ← execute none (some channel) text
    closePipe pipe
    openSource o channel status
    return o

/-- a name and a value with an equals sign between them -/
def assignment? (cs : Octets) : Option (Octets × Octets) :=
  let name := cs.takeWhile isNameChar
  match cs.drop name.length with
  | '=' :: value =>
    if name = [] ∨ (name.head?.map Char.isDigit).getD true then none else some (name, unescape value)
  | _ => none

/-- a variable gets a value, if the script knows it -/
def assign (name value : Octets) : Reporting Unit := do
  match (← get).script.names.findIdx? (· = name) with
  | some n => setShared n (.input value)
  | none => pure ()

/-- the next file that the arguments name is opened; without any it is the input -/
def openNext : Nat → Reporting Unit
  | 0 => modify fun s => { s with finished := true }
  | fuel + 1 => do
    let s ← get
    let count := ((s.value Given.argumentCount).toNumber.truncate.getD 0).toNat
    if s.nextArgument < count then
      let key := Value.number (.ofInt s.nextArgument)
      let (arguments, found) := (s.table Given.arguments).find [] key false
      let s := { s with nextArgument := s.nextArgument + 1 }.putTable Given.arguments arguments
      set s
      match found.map fun i => s.textOf (arguments.node i).value with
      | none | some [] => openNext fuel
      | some path =>
        match assignment? path with
        | some (name, value) => do
          assign name value
          openNext fuel
        | none => do
          match ← openPath .main path with
          | .ok () => modify fun s => (({ s with current := true, named := true }.put Given.fileName
              (.text path)).put Given.fileRecordCount (.number .zero))
          | .error e =>
            giveUp ("cannot open \"".toList ++ path ++ "\" (".toList ++ errorText e ++ ")".toList)
    else if s.named then set { s with finished := true }
    else do
      set { s with named := true }
      match ← openPath .main ['-'] with
      | .ok () => modify fun s => { s with current := true }.put Given.fileName (.text ['-'])
      | .error _ => modify fun s => { s with finished := true }

/-- a counter goes on -/
def count (n : Nat) : Reporting Unit := modify fun s =>
  s.put n (.number (Double.add (s.value n).toNumber one))

/-- the next record of what the arguments name -/
def nextRecord : Nat → Reporting (Option Octets)
  | 0 => return none
  | fuel + 1 => do
    let s ← get
    if s.finished then return none
    else if s.current then
      match ← takeFrom .main with
      | some r => do
        count Given.recordCount
        count Given.fileRecordCount
        return some r
      | none => do
        modify fun s => { s with current := false }
        nextRecord fuel
    else do
      openNext (((s.value Given.argumentCount).toNumber.truncate.getD 0).toNat + 2)
      nextRecord fuel

/-- how many files may be looked through for a record -/
def Session.files (s : Session) : Nat :=
  2 * ((s.value Given.argumentCount).toNumber.truncate.getD 0).toNat + 4

end Debate.Shell.Report
