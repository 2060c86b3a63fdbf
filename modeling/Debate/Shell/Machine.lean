import Debate.Files.Tree
import Debate.Shell.Octets
import Debate.Shell.Process

/-!
# What commands work on

Commands read and write through channels: a channel leads to one of the streams of output, to a file,
through a pipe to another command, or nowhere. Several numbers may refer to one channel; they share the
place in the file that it has come to. Time passes when a command sleeps, or waits for one that sleeps.

* `Channel`, `Pipe`   what can be read and written;
* `Machine`           files, channels and pipes, the time, and what was written;
* `Act`               a step, which may end everything that goes on in it;
* `write`, `readAll`, `readLine`, `readSome`   writing to a channel, and reading from it;
* `locate`, `stat`, `openFile`                 the place of a path, what is there, and a channel to it.

What lies outside of the directory at hand is kept below a place of its own, whose name is a slash.
-/

namespace Debate.Shell

open Debate.Files Debate.Number

/-! ## channels -/

/-- what a channel leads to -/
inductive Channel where
  /-- one of the streams of output -/
  | stream (s : Stream)
  /-- a file, and the place in it that the channel has come to -/
  | file (place : Place) (position : Nat) (appending : Bool)
  | pipe (number : Nat)
  | directory
  /-- nothing comes from there, and nothing arrives -/
  | nowhere
  /-- zeros come from there without end, and nothing arrives -/
  | zeros
  deriving DecidableEq, Repr

/-- what goes from one command to another: pieces, each with the time at which it was written -/
structure Pipe where
  /-- what is to be read next -/
  ready : List (Double × Octets) := []
  /-- what was written since, the last first -/
  later : List (Double × Octets) := []
  /-- when the last writer ended -/
  ends : Double := Double.zero
  size : Nat := 0
  /-- when something was written last -/
  latest : Double := Double.zero
  /-- when the last reader ended, if that is known -/
  closes : Option Double := none

/-- files, channels and pipes, the time, and what was written -/
structure Machine where
  tree : Tree := {}
  /-- files that can be run -/
  executables : List Place := []
  channels : Array Channel := #[]
  pipes : Array Pipe := #[]
  clock : Double := Double.zero
  /-- when everything is stopped -/
  deadline : Option Double := none
  /-- what was written to the streams, the last first -/
  written : List Written := []
  /-- the number of the process that comes next -/
  nextProcess : Nat := 100
  /-- when the last command ends that runs beside the others -/
  lingering : Double := Double.zero

/-- why everything that goes on is ended -/
inductive Halt where
  /-- the time is over -/
  | expired
  /-- a process was killed by a signal -/
  | killed (process signal : Nat)
  /-- nobody reads what is written -/
  | unread
  deriving DecidableEq, Repr

/-- a step -/
abbrev Act (α : Type) := ExceptT Halt (StateM Machine) α

/-- the end of a step instead of its result -/
def Act.halt {α : Type} (h : Halt) : Act α := throw h

/-- the outcome of a step, also if it was ended -/
def Act.attempt {α : Type} (x : Act α) : Act (Except Halt α) := fun m =>
  let r := ExceptT.run x m
  (.ok r.1, r.2)

/-! ## time -/

/-- it is at least so late -/
def waitUntil (t : Double) : Act Unit := do
  let m ← get
  if Double.lt m.clock t then
    match m.deadline with
    | some d =>
      if Double.lt t d then set { m with clock := t }
      else do
        set { m with clock := d }
        throw .expired
    | none => set { m with clock := t }

/-- time passes -/
def pass (seconds : Double) : Act Unit := do waitUntil (Double.add (← get).clock seconds)

/-- time that never ends -/
def passForever : Act Unit := waitUntil (.infinite false)

/-! ## places -/

/-- the place of what lies outside -/
def outside : Place := ["/"]

/-- directories that are there from the start -/
def givenDirectories : List Place :=
  [outside, ["/", "bin"], ["/", "dev"], ["/", "etc"], ["/", "home"], ["/", "proc"], ["/", "root"],
    ["/", "tmp"], ["/", "usr"], ["/", "usr", "bin"], ["/", "usr", "local"], ["/", "usr", "local", "bin"],
    ["/", "usr", "lib"], ["/", "var"], ["/", "var", "tmp"], ["/", "opt"], ["/", "sbin"], ["/", "usr", "sbin"],
    ["/", "dev", "fd"]]

/-- a tree with the directories that are there from the start -/
def furnished (t : Tree) : Tree :=
  ⟨t.entries ++ givenDirectories.map fun p => (p, Node.directory false)⟩

/-- a tree without what lies outside -/
def unfurnished (t : Tree) : Tree := ⟨t.entries.filter fun e => e.1.head? ≠ some "/"⟩

/-- the place that names lead to from a place -/
def walk (t : Tree) (here : Place) : List String → Except FileError Place
  | [] => .ok here
  | name :: names =>
    match t.get? here with
    | some (.directory _) =>
      if name = ".." then walk t (if here.length = 1 ∧ here = outside then here else here.dropLast) names
      else if name.utf8ByteSize > Tree.maxName then .error .nameTooLong
      else walk t (here ++ [name]) names
    | some (.file _) => .error .notDirectory
    | none => .error .missing

/-- the place that a path leads to from a directory; a slash at the end asks for a directory -/
def Machine.locate (m : Machine) (here : Place) (path : Octets) : Except FileError Place := do
  if path.isEmpty then throw .missing
  let names := ((Text.split ['/'] path).map fun cs => Octets.toText cs).filter fun n => n ≠ "" ∧ n ≠ "."
  let place ← walk m.tree (if path.head? = some '/' then outside else here) names
  if path.getLast? = some '/' ∧ m.tree.isFile place then throw .notDirectory
  return place

/-- what stands where a path leads -/
def Machine.stat (m : Machine) (here : Place) (path : Octets) : Except FileError Node := do
  match m.tree.get? (← m.locate here path) with
  | some n => .ok n
  | none => .error .missing

/-- the names in a directory, in order -/
def Machine.children (m : Machine) (place : Place) : List String :=
  let names := m.tree.entries.filterMap fun e =>
    if e.1.length = place.length + 1 ∧ e.1.dropLast = place ∧ e.1 ≠ outside then e.1.getLast? else none
  names.mergeSort fun a b => !(Octets.before (Octets.ofString b) (Octets.ofString a))

/-! ## opening -/

/-- a new channel -/
def newChannel (c : Channel) : Act Nat := modifyGet fun m =>
  (m.channels.size, { m with channels := m.channels.push c })

/-- a new pipe -/
def newPipe (p : Pipe) : Act Nat := modifyGet fun m => (m.pipes.size, { m with pipes := m.pipes.push p })

/-- a channel from which a text can be read -/
def channelOf (cs : Octets) : Act Nat := do
  let m ← get
  let pieces := if cs.isEmpty then [] else [(m.clock, cs)]
  newChannel (.pipe (← newPipe { ready := pieces, ends := m.clock, size := cs.length }))

/-- the channel of a number -/
def Machine.channel (m : Machine) (n : Nat) : Channel := (m.channels[n]?).getD .nowhere

/-- numbers that refer to channels -/
abbrev Numbers := List (Nat × Nat)

/-- the channel of a number -/
def Numbers.find? (ns : Numbers) (n : Nat) : Option Nat := (List.find? (fun x => x.1 = n) ns).map (·.2)

/-- a number refers to another channel -/
def Numbers.put (ns : Numbers) (n channel : Nat) : Numbers := (n, channel) :: List.filter (fun x => x.1 ≠ n) ns

/-- a number refers to no channel -/
def Numbers.remove (ns : Numbers) (n : Nat) : Numbers := List.filter (fun x => x.1 ≠ n) ns

/-- how a file is opened -/
inductive Opening where
  | reading
  /-- what is there is cleared -/
  | writing
  | appending
  | both
  deriving DecidableEq, Repr

/-- the number that a path below the devices stands for -/
def deviceNumber? (path : Octets) : Option Nat :=
  match String.ofList path with
  | "/dev/stdin" => some 0
  | "/dev/stdout" => some 1
  | "/dev/stderr" => some 2
  | s => if s.startsWith "/dev/fd/" then Octets.natural? (path.drop 8) else none

/-- the empty device -/
def isNull (path : Octets) : Bool := path = "/dev/null".toList

/-- a device from which octets come without end -/
def isEndless (path : Octets) : Bool :=
  path = "/dev/zero".toList || path = "/dev/urandom".toList || path = "/dev/random".toList

/-- a device -/
def isDevice (path : Octets) : Bool := isNull path || isEndless path

/-- a channel to a file -/
def openFile (numbers : Numbers) (here : Place) (path : Octets) (how : Opening) :
    Act (Except FileError Nat) := do
  if isNull path then return .ok (← newChannel .nowhere)
  if isEndless path then return .ok (← newChannel .zeros)
  match deviceNumber? path with
  | some n =>
    match numbers.find? n with
    | some c => return .ok c
    | none => return .error .missing
  | none => do
    let m ← get
    match m.locate here path with
    | .error e => return .error e
    | .ok place =>
      let parent := place.dropLast
      match how, m.tree.get? place with
      | .reading, some (.directory _) => return .ok (← newChannel .directory)
      | _, some (.directory _) => return .error .isDirectory
      | .reading, none => return .error .missing
      | .writing, some (.file _) => do
        set { m with tree := m.tree.put place (.file []) }
        return .ok (← newChannel (.file place 0 false))
      | how, some (.file _) => return .ok (← newChannel (.file place 0 (how = .appending)))
      | how, none =>
        if m.tree.isDirectory parent ∧ path.getLast? ≠ some '/' then do
          set { m with tree := m.tree.put place (.file []) }
          return .ok (← newChannel (.file place 0 (how = .appending)))
        else return .error (if m.tree.isDirectory parent then .isDirectory else .missing)

/-! ## writing -/

/-- how much a pipe takes before nobody seems to read it -/
def pipeLimit : Nat := 4000000

/-- whether nobody reads any more what is written to a pipe -/
def Pipe.isUnread (p : Pipe) (now : Double) : Bool :=
  pipeLimit < p.size || (p.closes.map fun t => Double.lt t now).getD false

/-- a file with new bytes at a position -/
def overwrite (old new : List UInt8) (position : Nat) : List UInt8 :=
  let gap := List.replicate (position - old.length) 0
  (old.take position) ++ gap ++ new ++ old.drop (position + new.length)

/-- octets are written to a channel -/
def write (channel : Nat) (cs : Octets) : Act Unit := do
  if !cs.isEmpty then
    let m ← get
    match m.channel channel with
    | .stream stream =>
      set { m with written := { after := m.clock, stream, bytes := Octets.toBytes cs } :: m.written }
    | .pipe n =>
      match m.pipes[n]? with
      | some p =>
        if p.isUnread m.clock then throw .unread
        else
          let p := { p with
            later := (m.clock, cs) :: p.later, size := p.size + cs.length, latest := m.clock }
          set { m with pipes := m.pipes.set! n p }
      | none => pure ()
    | .file place position appending =>
      match m.tree.get? place with
      | some (.file old) =>
        let new := Octets.toBytes cs
        let position := if appending then old.length else position
        let bytes := if position = old.length then old ++ new else overwrite old new position
        set { m with
          tree := m.tree.put place (.file bytes)
          channels := m.channels.set! channel (.file place (position + new.length) appending) }
      | _ => pure ()
    | .directory | .nowhere | .zeros => pure ()

/-! ## reading -/

/-- the first line, with its line feed if it has one -/
def lineOf : Octets → Octets
  | [] => []
  | c :: cs => if c = '\n' then [c] else c :: lineOf cs

/-- the bytes of the first line -/
def lineOfBytes : List UInt8 → List UInt8
  | [] => []
  | b :: bs => if b = 10 then [b] else b :: lineOfBytes bs

/-- the next piece that comes through a channel, perhaps at most so many octets of it, and only up to a
line feed if that is wanted; nothing at the end -/
def readPiece (channel : Nat) (most : Option Nat) (upToLine : Bool) : Act Octets := do
  let m ← get
  let first (cs : Octets) : Octets := match most with
    | some n => cs.take n
    | none => cs
  let cut (cs : Octets) : Octets := first (if upToLine then lineOf cs else cs)
  match m.channel channel with
  | .pipe n =>
    match m.pipes[n]? with
    | some p =>
      let ready := if p.ready.isEmpty then p.later.reverse else p.ready
      let later := if p.ready.isEmpty then [] else p.later
      match ready with
      | [] => do
        waitUntil p.ends
        return []
      | (t, cs) :: more => do
        waitUntil t
        let piece := cut cs
        let rest := cs.drop piece.length
        let p := { p with ready := if rest.isEmpty then more else (t, rest) :: more, later }
        modify fun m => { m with pipes := m.pipes.set! n p }
        return piece
    | none => return []
  | .file place position appending =>
    match m.tree.get? place with
    | some (.file bytes) => do
      let rest := bytes.drop position
      let piece := cut (Octets.ofBytes (if upToLine then lineOfBytes rest else rest))
      set { m with channels := m.channels.set! channel (.file place (position + piece.length) appending) }
      return piece
    | _ => return []
  | .zeros => return List.replicate (most.getD 65536) '\x00'
  | .stream _ | .directory | .nowhere => return []

/-- how many pieces can still come through a channel -/
def Machine.pieces (m : Machine) (channel : Nat) : Nat :=
  match m.channel channel with
  | .pipe n => ((m.pipes[n]?).map fun p => p.ready.length + p.later.length).getD 0
  | _ => 1

/-- pieces up to the end -/
def readFrom (channel : Nat) : Nat → Act (List Octets)
  | 0 => return []
  | fuel + 1 => do
    let piece ← readPiece channel none false
    if piece.isEmpty then return [] else return piece :: (← readFrom channel fuel)

/-- everything that is still to come through a channel -/
def readAll (channel : Nat) : Act Octets := do
  return (← readFrom channel ((← get).pieces channel + 2)).flatten

/-- a line in pieces -/
def readLineFrom (channel : Nat) : Nat → Act Octets
  | 0 => return []
  | fuel + 1 => do
    let piece ← readPiece channel none true
    if piece.isEmpty ∨ Octets.isTerminated piece then return piece
    else return piece ++ (← readLineFrom channel fuel)

/-- a line with its line feed, which the last one may lack; nothing at the end -/
def readLine (channel : Nat) : Act Octets := do
  readLineFrom channel ((← get).pieces channel + 2)

/-- so many octets in pieces -/
def readSomeFrom (channel : Nat) : Nat → Nat → Act Octets
  | 0, _ => return []
  | _, 0 => return []
  | fuel + 1, most => do
    let piece ← readPiece channel (some most) false
    if piece.isEmpty then return []
    else return piece ++ (← readSomeFrom channel fuel (most - piece.length))

/-- at most so many octets, fewer only at the end -/
def readSome (channel most : Nat) : Act Octets := do
  readSomeFrom channel ((← get).pieces channel + 2) most

/-- octets that were read are put back, if the channel leads to a file -/
def putBack (channel count : Nat) : Act Unit := modify fun m =>
  match m.channel channel with
  | .file place position appending =>
    { m with channels := m.channels.set! channel (.file place (position - count) appending) }
  | _ => m

/-! ## pipes -/

/-- the last writer of a pipe ends now -/
def closePipe (number : Nat) : Act Unit := modify fun m =>
  match m.pipes[number]? with
  | some p => { m with pipes := m.pipes.set! number { p with ends := m.clock } }
  | none => m

/-- everything that was written to a pipe -/
def Machine.drained (m : Machine) (number : Nat) : Octets :=
  match m.pipes[number]? with
  | some p => (p.ready ++ p.later.reverse).flatMap (·.2)
  | none => []

end Debate.Shell
