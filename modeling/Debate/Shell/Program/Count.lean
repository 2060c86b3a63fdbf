import Debate.Number.Power
import Debate.Shell.Format
import Debate.Shell.Numeral
import Debate.Shell.Program.Column

/-!
# Counting

* `wc`     how many lines, words, characters and octets files have;
* `seq`    numbers from one to another one.
-/

namespace Debate.Shell

open Debate.Number Debate.Number.Power

/-! ## how much there is -/

namespace Count

/-- what is counted of a text -/
structure Counts where
  lines : Nat := 0
  words : Nat := 0
  characters : Nat := 0
  octets : Nat := 0
  /-- the greatest width of a line -/
  width : Nat := 0

/-- whether a character stands between words -/
def isGap (c : Char) : Bool :=
  Octets.isSpace c || [0xA0, 0x1680, 0x2007, 0x2028, 0x2029, 0x202F, 0x205F, 0x2060, 0x3000].contains c.toNat ||
    (0x2000 ≤ c.toNat && c.toNat ≤ 0x200A)

/-- whether a character can be part of a word -/
def isPrinted (c : Char) : Bool :=
  if c.toNat < 0x80 then ' ' ≤ c && c ≤ '~' else 0xA0 ≤ c.toNat && c.toNat < Octets.strayBase

/-- how many columns a character takes -/
def columns (c : Char) : Nat :=
  let n := c.toNat
  let within (a b : Nat) : Bool := a ≤ n && n ≤ b
  if !isPrinted c then 0
  else if within 0x300 0x36F || within 0x200B 0x200F then 0
  else if within 0x1100 0x115F || within 0x2E80 0xA4CF || within 0xAC00 0xD7A3 || within 0xF900 0xFAFF ||
      within 0xFE30 0xFE6F || within 0xFF00 0xFF60 || within 0xFFE0 0xFFE6 || within 0x1F300 0x1F64F ||
      within 0x1F900 0x1F9FF || within 0x20000 0x3FFFD then 2
  else 1

/-- the number of words among characters; `inside` says whether a word has begun -/
def wordCount (inside : Bool) : List Char → Nat
  | [] => 0
  | c :: cs =>
    if isGap c then wordCount false cs
    else if isPrinted c then (if inside then 0 else 1) + wordCount true cs
    else wordCount inside cs

/-- the greatest width of a line, from a column on -/
def lineWidth (column best : Nat) : List Char → Nat
  | [] => max best column
  | c :: cs =>
    if c = '\n' ∨ c = '\r' ∨ c = '\x0c' then lineWidth 0 (max best column) cs
    else if c = '\t' then lineWidth (column + 8 - column % 8) best cs
    else lineWidth (column + columns c) best cs

/-- what is counted of a text -/
def Counts.of (cs : Octets) : Counts :=
  let xs := Octets.characters cs
  { lines := cs.count '\n'
    words := wordCount false xs
    characters := (xs.filter fun c => c.toNat < Octets.strayBase).length
    octets := cs.length
    width := lineWidth 0 0 xs }

/-- what is counted of two texts -/
def Counts.add (a b : Counts) : Counts where
  lines := a.lines + b.lines
  words := a.words + b.words
  characters := a.characters + b.characters
  octets := a.octets + b.octets
  width := max a.width b.width

/-- the options -/
def flags : List Flag := [.on 'c' "bytes", .on 'm' "chars", .on 'l' "lines", .on 'w' "words",
  .on 'L' "max-line-length", .long "total" .value, .long "files0-from" .value]

/-- the counts that are asked for, each in its columns, and a name -/
def row (keys : List String) (columns : Nat) (c : Counts) (name : Octets) : Octets :=
  let all := [("l", c.lines), ("w", c.words), ("m", c.characters), ("c", c.octets), ("L", c.width)]
  let shown := (all.filter fun x => keys.contains x.1).map fun x => Copy.aligned columns x.2
  [' '].intercalate shown ++ (if name.isEmpty then [] else ' ' :: name) ++ ['\n']

/-- the size of the file that a path leads to; nothing if it is no file, and it may be missing -/
def sizeOf (s : Setting) (m : Machine) (path : Octets) : Option (Option Nat) :=
  let ofPlace (p : Debate.Files.Place) : Option Nat :=
    match m.tree.get? p with
    | some (.file bytes) => some bytes.length
    | _ => none
  if path = ['-'] then
    (s.numbers.find? 0).map fun c => match m.channel c with
      | .file place _ _ => ofPlace place
      | _ => none
  else if isDevice path ∨ (deviceNumber? path).isSome then some none
  else
    match m.locate s.here path with
    | .ok p => (m.tree.get? p).map fun _ => ofPlace p
    | .error _ => none

end Count

open Count in
/-- how many lines, words, characters and octets files have -/
def wc : Program := withOptions Count.flags fun _ s name o => do
  let asked := ["l", "w", "m", "c", "L"].filter o.has
  let keys := if asked.isEmpty then ["l", "w", "c"] else asked
  let m ← get
  let sizes := o.files.map (sizeOf s m)
  let columns :=
    if o.files.length = 1 ∧ keys.length = 1 then 1
    else
      let digits := (Octets.ofNat (sizes.foldl (fun n x => n + (x.getD none).getD 0) 0)).length
      if sizes.any fun x => x = some none then max 7 digits else digits
  let mut total : Counts := {}
  let mut status := 0
  for p in o.files do
    let shown := if p = ['-'] ∧ o.operands.isEmpty then [] else p
    match ← s.contents p with
    | .ok cs => do
      let c := Counts.of cs
      total := total.add c
      s.say (row keys columns c shown)
    | .error e => do
      s.complaint name (Octets.scriptQuotedIfNeeded p ++ ": ".toList ++ errorText e)
      if e = .isDirectory then s.say (row keys columns {} shown)
      status := 1
  let summed := match o.last? "total" with
    | some cs => if cs = "never".toList then false else if cs = "always".toList then true else 1 < o.files.length
    | none => 1 < o.files.length
  if summed then s.say (row keys columns total "total".toList)
  return status

/-! ## numbers from one to another -/

namespace Sequence

/-- a number, with the places and the width in which it is written -/
structure Term where
  numerator : Int
  denominator : Nat := 1
  /-- there is no end -/
  infinite : Bool := false
  width : Nat := 0
  /-- the places behind the point, if they are known -/
  places : Option Nat := some 0

/-- a number as it is written -/
def Term.read? (cs : Octets) : Option Term :=
  let cs := cs.dropWhile fun c => Octets.isSpace c || c = '+'
  match Numeral.double? cs with
  | none | some .undefined => none
  | some (.infinite negative) => some { numerator := if negative then -1 else 1, infinite := true }
  | some (.finite negative m e) =>
    if cs.any fun c => c = 'x' ∨ c = 'X' then
      let (n, d) := Double.ratio negative m e
      some { numerator := n, denominator := d, places := if cs.contains '.' ∨ cs.contains 'p' then none else some 0 }
    else
      let minus := cs.head? = some '-'
      let body := cs.takeWhile fun c => c ≠ 'e' ∧ c ≠ 'E'
      let behind := cs.drop (body.length + 1)
      let whole := (body.dropWhile (· = '-')).takeWhile Char.isDigit
      let point := body.contains '.'
      let part := ((body.dropWhile (· ≠ '.')).drop 1)
      let power := (Octets.integer? behind).getD 0
      let n := (Octets.natural? (whole ++ part)).getD 0
      let shift := power - part.length
      let (num, den) := if 0 ≤ shift then (n * 10 ^ shift.natAbs, 1) else (n, 10 ^ shift.natAbs)
      let places := part.length
      let width : Int := body.length + (if point then (if part.isEmpty then -1 else if whole.isEmpty then 1 else 0) else 0)
      let (places, width) :=
        if behind.isEmpty then (places, width)
        else if power < 0 then
          (places + power.natAbs, width + (if point then (if part.isEmpty then 1 else 0) else 1) + power.natAbs)
        else
          let left := places - min places power.natAbs
          (left, width - (if point ∧ left = 0 ∧ !part.isEmpty then 1 else 0) +
            (power.natAbs - min part.length power.natAbs : Nat))
      some { numerator := if minus then -(num : Int) else num, denominator := den
             width := width.toNat, places := some places }

/-- whether a number is not above another one -/
def atMost (a b : Int × Nat) : Bool := a.1 * b.2 ≤ b.1 * a.2

/-- how numbers are written -/
inductive Layout where
  | places (n : Nat) (width : Nat)
  | general
  /-- a text in front of a conversion, the conversion with its letter, and the text behind -/
  | format (before : Octets) (c : Conversion) (letter : Char) (after : Octets)

/-- a text of a format up to its conversion; a doubled mark stands for itself -/
def upToConversion : Octets → Octets × Octets
  | [] => ([], [])
  | '%' :: '%' :: cs => let r := upToConversion cs; ('%' :: r.1, r.2)
  | '%' :: cs => ([], '%' :: cs)
  | c :: cs => let r := upToConversion cs; (c :: r.1, r.2)

/-- a format with a single conversion -/
def formatOf (cs : Octets) : Except Octets Layout :=
  let named (text : String) : Except Octets Layout :=
    .error ("format ".toList ++ Octets.quoted cs ++ text.toList)
  let (before, rest) := upToConversion cs
  match rest with
  | [] => named " has no % directive"
  | _ :: rest =>
    let (written, rest) := Conversion.read rest
    let rest := rest.dropWhile (· = 'L')
    let size? : Option Conversion.Size → Nat
      | some (.given n) => n
      | _ => 0
    let c := written.flags.withWidth (size? written.width)
    let c := match written.precision with
      | some p => c.withPrecision (size? p)
      | none => c
    match rest with
    | [] => named " ends in %"
    | letter :: rest =>
      if !"efgaEFGA".toList.contains letter then
        .error ("format ".toList ++ Octets.quoted cs ++ " has unknown %".toList ++ letter :: " directive".toList)
      else
        let (after, more) := upToConversion rest
        if more.isEmpty then .ok (.format before c letter after)
        else named " has too many % directives"

/-- a number as it is to be written -/
def Layout.text (l : Layout) (x : Int × Nat) : Octets :=
  match l with
  | .places n width =>
    ({ zero := true, width : Conversion }).fill true (if x.1 < 0 then ['-'] else [])
      (Conversion.fixed false n x.1.natAbs x.2)
  | .general => ({} : Conversion).float 'g' (Double.ofRatio x.1 x.2)
  | .format before c letter after => before ++ c.float letter (Double.ofRatio x.1 x.2) ++ after

/-- how numbers are written if nothing is said about it -/
def layoutOf (equal : Bool) (first step last : Term) : Layout :=
  match first.places, step.places, last.places with
  | some f, some s, some l =>
    let places := max f s
    let begin := first.width + (places - f) + (if f = 0 ∧ places ≠ 0 then 1 else 0)
    let finish : Int := (last.width : Int) + ((places : Int) - l) + (if l = 0 ∧ places ≠ 0 then 1 else 0) -
      (if l ≠ 0 ∧ places = 0 then 1 else 0)
    .places places (if equal then max begin finish.toNat else 0)
  | _, _, _ => .general

/-- numbers that are written, each but the first after a separator; if there are too many of them nothing
comes to an end -/
def writeAll (s : Setting) (l : Layout) (separator : Octets) (step : Int × Nat) (goes : Int × Nat → Bool) :
    Nat → Bool → Int × Nat → Act Unit
  | 0, _, _ => passForever
  | fuel + 1, first, x => do
    if goes x then
      s.say ((if first then [] else separator) ++ l.text x)
      writeAll s l separator step goes fuel false (x.1 * step.2 + step.1 * x.2, x.2 * step.2)
    else if !first then s.say ['\n']

/-- the options -/
def flags : List Flag := [.on 'w' "equal-width", .valued 's' "separator", .valued 'f' "format"]

/-- arguments in which nothing is an option from the first negative number on -/
def withMark : List Octets → List Octets
  | [] => []
  | a :: as =>
    match a with
    | '-' :: c :: _ => if c.isDigit ∨ c = '.' then ['-', '-'] :: a :: as else a :: withMark as
    | a => a :: withMark as

end Sequence

open Sequence in
/-- numbers from one to another one -/
def seq : Program := fun launcher s name args =>
  withOptions Sequence.flags (fun _ s name o => do
    match o.operands with
    | [] => s.refuse name "missing operand".toList
    | _ :: _ :: _ :: extra :: _ => s.refuse name (extraOperand extra)
    | operands =>
      match operands.find? fun a => (Term.read? a).isNone with
      | some a => s.refuse name ("invalid floating point argument: ".toList ++ Octets.quoted a)
      | none =>
        let one : Term := { numerator := 1, width := 1 }
        let (first, step, last) := match operands.map fun a => (Term.read? a).getD one with
          | [a, b, c] => (a, b, c)
          | [a, b] => (a, one, b)
          | ts => (one, one, ts.headD one)
        if operands.length = 3 ∧ step.numerator = 0 then
          s.refuse name ("invalid Zero increment value: ".toList ++ Octets.quoted ((operands[1]?).getD []))
        else
          let layout : Except Octets Layout := match o.last? "f" with
            | none => .ok (layoutOf (o.has "w") first step last)
            | some cs => formatOf cs
          match layout with
          | .error e => s.fail name e
          | .ok layout =>
            if o.has "w" ∧ (o.last? "f").isSome then
              s.refuse name "format string may not be specified when printing equal width strings".toList
            else do
              let up := 0 < step.numerator
              let bound := (last.numerator, last.denominator)
              let goes (x : Int × Nat) : Bool :=
                if last.infinite then (0 < last.numerator) == up
                else if up then atMost x bound
                else atMost bound x
              writeAll s layout ((o.last? "s").getD ['\n']) (step.numerator, step.denominator) goes 200000 true
                (first.numerator, first.denominator)
              return 0) 1 true launcher s name (Sequence.withMark args)

end Debate.Shell
