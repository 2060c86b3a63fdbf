import Debate.Shell.Program.Copy

/-!
# The start and the end of files

* `head`    the first lines or octets of files, or all but the last;
* `tail`    the last lines or octets of files, or all from a place on.
-/

namespace Debate.Shell

/-- how much of a text is meant -/
structure Extent where
  /-- lines are counted, not octets -/
  lines : Bool := true
  count : Nat := 10
  /-- from the other side: all but so much, or all from there on -/
  opposite : Bool := false
  deriving DecidableEq, Repr

namespace Extent

/-- the units of a text that are counted -/
def units (p : Extent) (zero : Bool) (cs : Octets) : List Octets :=
  if !p.lines then cs.map fun c => [c]
  else if zero then
    let swap (c : Char) : Char := if c = '\n' then '\x00' else if c = '\x00' then '\n' else c
    (Octets.lines (cs.map swap)).map fun l => l.map swap
  else Octets.lines cs

/-- the start of a text -/
def first (p : Extent) (zero : Bool) (cs : Octets) : Octets :=
  let us := p.units zero cs
  ((us.take (if p.opposite then us.length - p.count else p.count))).flatten

/-- the end of a text -/
def last (p : Extent) (zero : Bool) (cs : Octets) : Octets :=
  let us := p.units zero cs
  (us.drop (if p.opposite then p.count - 1 else us.length - p.count)).flatten

/-- what an option asks for, with the sign that stands for the other side -/
def ofOption? (lines : Bool) (sign : Char) (cs : Octets) : Option Extent :=
  let (opposite, ds) := match cs with
    | '-' :: ds => (sign == '-', ds)
    | '+' :: ds => (sign == '+', ds)
    | ds => (false, ds)
  (size? ds).map fun count => { lines, count, opposite }

/-- arguments whose first may be digits after a hyphen, perhaps with letters behind, of which one may not
be known -/
def headArguments (args : List Octets) : Except Char (List Octets) :=
  match args with
  | ('-' :: c :: cs) :: as =>
    let ds := (c :: cs).takeWhile Char.isDigit
    let rest := (c :: cs).drop ds.length
    if ds.isEmpty then .ok args
    else
      match rest.find? fun c => !"lcbkmqvz".toList.contains c with
      | some c => .error c
      | none =>
        let unit : Octets := rest.filter "bkm".toList.contains
        let inOctets := rest.contains 'c' || !unit.isEmpty
        let others := (rest.filter "qvz".toList.contains).map fun c => ['-', c]
        .ok ((if inOctets then "-c".toList else "-n".toList) :: (ds ++ unit) :: (others ++ as))
  | args => .ok args

/-- arguments of which the first of two may be digits after a hyphen, perhaps with letters behind -/
def tailArguments (args : List Octets) : List Octets :=
  match args with
  | ('-' :: cs) :: as =>
    let ds := cs.takeWhile Char.isDigit
    let rest := cs.drop ds.length
    let (unit, rest) := match rest with
      | 'b' :: rest => (some ['b'], rest)
      | 'c' :: rest => (some [], rest)
      | 'l' :: rest => (none, rest)
      | rest => (none, rest)
    if (rest = [] ∨ rest = ['f']) ∧ as.length ≤ 1 ∧ !ds.isEmpty then
      (if rest.isEmpty then [] else [['-', 'f']]) ++ (match unit with
        | some u => "-c".toList :: (ds ++ u) :: as
        | none => "-n".toList :: ds :: as)
    else args
  | args => args

/-- the title of a file, after a line feed if it is not the first -/
def title (first : Bool) (p : Octets) : Octets :=
  (if first then [] else ['\n']) ++ "==> ".toList ++ (if p = ['-'] then "standard input".toList else p) ++
    " <==\n".toList

/-- the options of both programs -/
def flags : List Flag := [.valued 'n' "lines", .valued 'c' "bytes", .on 'q' "quiet", .on 'q' "silent",
  .on 'v' "verbose", .on 'z' "zero-terminated"]

/-- the name of a file in a complaint -/
def nameOf (p : Octets) : Octets := if p = ['-'] then "standard input".toList else p

/-- the files, each with a title if there are several -/
def ofFiles (s : Setting) (name : Octets) (o : Options) (f : Nat → Act Unit) : Act Nat := do
  let titled := match o.lastOf? ["q", "v"] with
    | some (k, _) => k == "v"
    | none => decide (1 < o.operands.length)
  let mut status := 0
  let mut first := true
  for p in o.files do
    match ← (if p = ['-'] then pure (match s.numbers.find? 0 with
        | some c => Except.ok c
        | none => .error .badDescriptor)
      else openFile s.numbers s.here p .reading) with
    | .error e => do
      s.complaint name ("cannot open ".toList ++ Octets.scriptQuoted (nameOf p) ++ " for reading: ".toList ++ errorText e)
      status := 1
    | .ok c => do
      if titled then s.say (title first p)
      first := false
      match (← get).channel c with
      | .directory => do
        s.complaint name ("error reading ".toList ++ Octets.scriptQuoted (nameOf p) ++ ": Is a directory".toList)
        status := 1
      | _ => f c
  return status

/-- so many lines, block by block; what follows them is given back if the channel leads to a file -/
def firstLines (s : Setting) (channel : Nat) (mark : Char) : Nat → Nat → Act Unit
  | 0, _ => return ()
  | _, 0 => return ()
  | fuel + 1, count => do
    let block ← readPiece channel (some 8192) false
    if block.isEmpty then return ()
    else
      let (taken, left) := cut count block
      s.say taken
      if left = 0 then putBack channel (block.length - taken.length)
      else firstLines s channel mark fuel left
where
  /-- the lines of a block, and how many are left to take -/
  cut : Nat → Octets → Octets × Nat
    | 0, _ => ([], 0)
    | n, [] => ([], n)
    | n + 1, c :: cs =>
      if c = mark then let r := cut n cs; (c :: r.1, r.2)
      else let r := cut (n + 1) cs; (c :: r.1, r.2)

end Extent

/-- what an option asks for, or a complaint -/
def partOf (o : Options) (sign : Char) : Except Octets Extent :=
  match o.lastOf? ["n", "c"] with
  | none => .ok {}
  | some (k, v) =>
    match Extent.ofOption? (k = "n") sign v with
    | some p => .ok p
    | none => .error ((if k = "n" then "invalid number of lines: " else "invalid number of bytes: ").toList ++
        Octets.quoted v)

/-- the start of files -/
def head : Program := fun launcher s name args =>
  match Extent.headArguments args with
  | .error c => s.refuse name ("invalid trailing option -- ".toList ++ [c])
  | .ok args => withOptions Extent.flags (fun _ s name o => do
    match partOf o '-' with
    | .error e => s.fail name e
    | .ok part =>
      let zero := o.has "z"
      Extent.ofFiles s name o fun c => do
        if part.opposite then s.say (part.first zero (← readAll c))
        else if part.lines then
          Extent.firstLines s c (if zero then '\x00' else '\n') ((← get).pieces c + part.count + 1000) part.count
        else s.say (← readSome c part.count)) 1 false launcher s name args

/-- whether the input comes through a pipe -/
def isPiped (s : Setting) : Act Bool := do
  match (s.numbers.find? 0).map (← get).channel with
  | some (.pipe _) => return true
  | _ => return false

/-- the end of files -/
def tail : Program := fun launcher s name args =>
  let digits := "0123456789".toList.map fun c => Flag.on c
  withOptions (Extent.flags ++ [.on 'f', .on 'F', .long "follow" .maybe, .long "retry",
      .valued 's' "sleep-interval", .long "pid" .value] ++ digits) (fun _ s name o => do
    match o.given.find? fun g => g.1.any Char.isDigit with
    | some (d, _) => s.fail name ("option used in invalid context -- ".toList ++ d.toList)
    | none =>
    match partOf o '+' with
    | .error e => s.fail name e
    | .ok part => do
      let status ← Extent.ofFiles s name o fun c => do s.say (part.last (o.has "z") (← readAll c))
      if o.has "f" ∨ o.has "F" ∨ o.has "follow" then
        if o.operands.isEmpty then
          if !(← isPiped s) then passForever
        else if status ≠ 0 ∧ o.operands.length = 1 then s.complaint name "no files remaining".toList
        else passForever
      return status) 1 false launcher s name (Extent.tailArguments args)

end Debate.Shell
