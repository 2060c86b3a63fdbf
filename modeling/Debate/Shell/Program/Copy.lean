import Debate.Shell.Options

/-!
# Copying

* `cat`    files one after the other, perhaps with numbers of lines and with marks for what is not seen;
* `tee`    the input, to the results and to files.
-/

namespace Debate.Shell

open Debate.Files

namespace Copy

/-- what comes through a channel is done something with, piece by piece as it arrives -/
def eachPiece (channel : Nat) (f : Octets → Act Unit) : Nat → Act Unit
  | 0 => return ()
  | fuel + 1 => do
    let piece ← readPiece channel none false
    if piece.isEmpty then return ()
    else do
      f piece
      eachPiece channel f fuel

/-- what comes through a channel is done something with, piece by piece as it arrives -/
def pieces (channel : Nat) (f : Octets → Act Unit) : Act Unit := do
  eachPiece channel f ((← get).pieces channel + 2)

/-! ## marks -/

/-- how a text is shown -/
structure Manner where
  /-- lines are numbered, or those that are not empty -/
  numbered : Bool := false
  numberedInk : Bool := false
  ends : Bool := false
  /-- of empty lines that follow each other one is shown -/
  squeezed : Bool := false
  tabs : Bool := false
  /-- what is not seen is shown with marks -/
  unseen : Bool := false
  deriving DecidableEq, Repr

/-- whether a text is shown as it is -/
def Manner.isPlain (m : Manner) : Bool := m = {}

/-- how an octet is shown with marks -/
def marked (c : Char) : Octets :=
  let low (n : Nat) : Octets := if n < 32 then ['^', Char.ofNat (n + 64)] else if n = 127 then ['^', '?'] else
    [Char.ofNat n]
  if 128 ≤ c.toNat then "M-".toList ++ low (c.toNat - 128) else low c.toNat

/-- a number right aligned in so many columns -/
def aligned (width n : Nat) : Octets :=
  let ds := Octets.ofNat n
  List.replicate (width - ds.length) ' ' ++ ds

/-- what has been shown so far -/
structure Shown where
  /-- the next octet starts a line -/
  atStart : Bool := true
  /-- how many empty lines came just now -/
  empty : Nat := 0
  number : Nat := 0
  text : List Octets := []

/-- one more octet; the one that follows it is known -/
def Manner.step (m : Manner) (s : Shown) (c : Char) (next : Option Char) : Shown :=
  if c = '\n' then
    if s.atStart then
      let s := { s with empty := s.empty + 1 }
      if m.squeezed ∧ 1 < s.empty then s
      else
        let counted := m.numbered && !m.numberedInk
        let number := if counted then s.number + 1 else s.number
        let start := if counted then aligned 6 number ++ ['\t'] else []
        { s with number, text := (start ++ (if m.ends then "$\n".toList else ['\n'])) :: s.text }
    else { s with atStart := true, empty := 0, text := (if m.ends then "$\n".toList else ['\n']) :: s.text }
  else
    let counted := s.atStart && (m.numbered || m.numberedInk)
    let number := if counted then s.number + 1 else s.number
    let start := if counted then aligned 6 number ++ ['\t'] else []
    let shown := if c = '\t' then (if m.tabs then "^I".toList else [c])
      else if m.unseen then marked c
      else if m.ends ∧ c = '\r' ∧ next = some '\n' then "^M".toList
      else [c]
    { s with atStart := false, empty := 0, number, text := (start ++ shown) :: s.text }

/-- a text -/
def Manner.over (m : Manner) (s : Shown) : Octets → Shown
  | [] => s
  | c :: cs => m.over (m.step s c cs.head?) cs

end Copy

/-- the options with which files are copied -/
def catFlags : List Flag := [.on 'b' "number-nonblank", .on 'n' "number", .on 's' "squeeze-blank",
  .on 'v' "show-nonprinting", .on 'E' "show-ends", .on 'T' "show-tabs", .on 'A' "show-all", .on 'e', .on 't',
  .on 'u']

/-- whether results go to the end of the file that a channel reads -/
def feedsItself (s : Setting) (channel : Nat) : Act Bool := do
  let m ← get
  match m.channel channel, (s.numbers.find? 1).map m.channel with
  | .file place i _, some (.file target j appending) =>
    let more := match m.tree.get? place with
      | some (.file bytes) => decide (i < bytes.length)
      | _ => false
    return place = target && (appending || i < j) && more
  | _, _ => return false

/-- files one after the other -/
def cat : Program := withOptions catFlags fun _ s name o => do
  let manner : Copy.Manner := {
    numbered := o.has "n", numberedInk := o.has "b", squeezed := o.has "s"
    ends := o.has "E" || o.has "e" || o.has "A"
    tabs := o.has "T" || o.has "t" || o.has "A"
    unseen := o.has "v" || o.has "e" || o.has "t" || o.has "A" }
  let mut status := 0
  let mut shown : Copy.Shown := {}
  for p in o.files do
    match ← s.openInput p with
    | .error e => do
      s.complaint name (Octets.scriptQuotedIfNeeded p ++ ": ".toList ++ errorText e)
      status := 1
    | .ok c => do
      if ← feedsItself s c then do
        s.complaint name (Octets.scriptQuotedIfNeeded p ++ ": input file is output file".toList)
        status := 1
      else if manner.isPlain then Copy.pieces c s.say
      else do
        shown := manner.over { shown with text := [] } (← readAll c)
        s.say shown.text.reverse.flatten
  return status

/-- a text in several channels -/
def writeEach (cs : Octets) : List Nat → Act Unit
  | [] => return ()
  | c :: channels => do
    write c cs
    writeEach cs channels

/-- the input, to the results and to files -/
def tee : Program := withOptions [.on 'a' "append", .on 'i' "ignore-interrupts", .on 'p',
    .long "output-error" .maybe] fun _ s name o => do
  let mut status := 0
  let mut channels := (s.numbers.find? 1).toList
  for p in o.operands do
    match ← openFile s.numbers s.here p (if o.has "a" then .appending else .writing) with
    | .error e => do
      s.complaint name (Octets.scriptQuotedIfNeeded p ++ ": ".toList ++ errorText e)
      status := 1
    | .ok c => channels := channels ++ [c]
  match s.numbers.find? 0 with
  | some c => Copy.pieces c fun cs => writeEach cs channels
  | none => do
    s.complaint name "read error: Bad file descriptor".toList
    status := 1
  return status

end Debate.Shell
