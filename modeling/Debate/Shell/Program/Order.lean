import Debate.Number.Double
import Debate.Shell.Numeral
import Debate.Shell.Program.Copy

/-!
# Lines in order

* `sort`    the lines of files in order, by keys that are parts of them;
* `uniq`    lines of which several in a row are equal, once;
* `comm`    the lines that two files in order have in common, and those that only one has;
* `tac`     the lines of files, the last first.
-/

namespace Debate.Shell

open Debate.Number

/-- texts that end with a mark, the last of which may lack it; without the marks -/
def recordsOf (zero : Bool) (cs : Octets) : List Octets :=
  let mark := if zero then '\x00' else '\n'
  let ps := Text.split [mark] cs
  if ps.getLast? = some [] then ps.dropLast else ps

namespace Sorting

/-! ## keys -/

/-- how texts are compared -/
inductive Kind where
  | plain
  | numeric
  /-- numbers with an exponent, and numbers with a unit -/
  | general
  | human
  | month
  | version
  deriving DecidableEq, Repr

/-- the manner in which a key is compared -/
structure Manner where
  kind : Kind := .plain
  reversed : Bool := false
  /-- blanks at the start and at the end of a key do not count -/
  blanks : Bool := false
  blanksBehind : Bool := false
  /-- only blanks, letters and digits count -/
  dictionary : Bool := false
  fold : Bool := false
  printing : Bool := false
  /-- the letters by which the kind was asked for -/
  kinds : Octets := []
  deriving DecidableEq, Repr

/-- whether nothing is said about how a key is compared -/
def Manner.isUnsaid (m : Manner) : Bool := m = {}

/-- what a letter says about the manner; blanks are those at the start, or at the end, or both -/
def Manner.letter? (m : Manner) (start behind : Bool) : Char → Option Manner
  | 'n' => some { m with kind := .numeric, kinds := 'n' :: m.kinds }
  | 'g' => some { m with kind := .general, kinds := 'g' :: m.kinds }
  | 'h' => some { m with kind := .human, kinds := 'h' :: m.kinds }
  | 'M' => some { m with kind := .month, kinds := 'M' :: m.kinds }
  | 'V' => some { m with kind := .version, kinds := 'V' :: m.kinds }
  | 'r' => some { m with reversed := true }
  | 'b' => some { m with blanks := m.blanks || start, blanksBehind := m.blanksBehind || behind }
  | 'd' => some { m with dictionary := true }
  | 'f' => some { m with fold := true }
  | 'i' => some { m with printing := true }
  | _ => none

/-- the letters of a manner that do not agree with each other -/
def Manner.conflict? (m : Manner) : Option Octets :=
  let has (c : Char) : Bool := m.kinds.contains c
  let text := m.dictionary || m.printing
  let count := ("nghM".toList.filter has).length + (if has 'V' || text then 1 else 0)
  if 1 < count then
    some ("dfghiMnV".toList.filter fun c =>
      if c = 'd' then m.dictionary else if c = 'f' then m.fold else if c = 'i' then m.printing else has c)
  else none

/-- what letters say about the manner, and what follows them -/
def Manner.letters (m : Manner) (start behind : Bool) : Octets → Manner × Octets
  | [] => (m, [])
  | c :: cs =>
    match m.letter? start behind c with
    | some m => m.letters start behind cs
    | none => (m, c :: cs)

/-- a part of a line: fields and octets before it, and its end if it has one -/
structure Key where
  field : Nat := 0
  place : Nat := 0
  endField : Option Nat := none
  endPlace : Nat := 0
  manner : Manner := {}
  deriving DecidableEq, Repr

/-- digits, their number, and what follows them -/
def number? (cs : Octets) : Option (Nat × Octets) :=
  let ds := cs.takeWhile Char.isDigit
  (Octets.natural? ds).map fun n => (n, cs.drop ds.length)

/-- the words about a key that cannot be -/
def mistaken (text : String) (cs : Octets) : Octets :=
  text.toList ++ ": invalid field specification ".toList ++ Octets.quoted cs

/-- a key as it is written -/
def Key.read (cs : Octets) : Except Octets Key := do
  let stray : Except Octets Key := .error (mistaken "stray character in field spec" cs)
  match number? cs with
  | none => .error ("invalid number at field start: invalid count at start of ".toList ++ Octets.quoted cs)
  | some (0, _) => .error (mistaken "field number is zero" cs)
  | some (f + 1, rest) => do
    let (place, rest) ← match rest with
      | '.' :: rest =>
        match number? rest with
        | some (0, _) => .error (mistaken "character offset is zero" cs)
        | some (c + 1, rest) => pure (c, rest)
        | none => .error ("invalid number after '.': invalid count at start of ".toList ++ Octets.quoted rest)
      | rest => pure (0, rest)
    let (manner, rest) := ({} : Manner).letters true false rest
    match rest with
    | [] => return { field := f, place, manner }
    | ',' :: rest =>
      match number? rest with
      | none => .error ("invalid number after ',': invalid count at start of ".toList ++ Octets.quoted rest)
      | some (0, _) => .error (mistaken "field number is zero" cs)
      | some (e + 1, rest) => do
        let (endPlace, rest) ← match rest with
          | '.' :: rest =>
            match number? rest with
            | some (c, rest) => pure (c, rest)
            | none => .error ("invalid number after '.': invalid count at start of ".toList ++ Octets.quoted rest)
          | rest => pure (0, rest)
        let (manner, rest) := manner.letters false true rest
        if rest.isEmpty then return { field := f, place, endField := some e, endPlace, manner }
        else stray
    | _ => stray

/-- what can stand between fields -/
def isBlank (c : Char) : Bool := c = ' ' || c = '\t' || c = '\n'

/-- a text behind so many fields; a mark between fields belongs to none of them, otherwise the blanks in
front of a field do -/
def afterFields (mark : Option Char) (keepLast : Bool) : Nat → Octets → Octets
  | 0, cs => cs
  | n + 1, cs =>
    match mark with
    | some t =>
      let rest := cs.dropWhile (· ≠ t)
      if n = 0 ∧ keepLast then rest else afterFields mark keepLast n rest.tail
    | none => afterFields mark keepLast n ((cs.dropWhile isBlank).dropWhile fun c => !isBlank c)

/-- the part of a line that a key means -/
def Key.part (k : Key) (mark : Option Char) (line : Octets) : Octets :=
  let start := afterFields mark false k.field line
  let start := if k.manner.blanks then start.dropWhile isBlank else start
  let start := start.drop k.place
  match k.endField with
  | none => start
  | some e =>
    let behind :=
      if k.endPlace = 0 then afterFields mark true (e + 1) line
      else
        let rest := afterFields mark false e line
        let rest := if k.manner.blanksBehind then rest.dropWhile isBlank else rest
        rest.drop k.endPlace
    start.take (start.length - behind.length)

/-! ## comparisons -/

/-- the order of two texts, octet by octet -/
def compareOctets (a b : Octets) : Ordering :=
  if Octets.before a b then .lt else if Octets.before b a then .gt else .eq

/-- a decimal number at the start of a text: whether it is negative, its digits without zeros in front, and
those behind the point without zeros at the end -/
def decimalOf (cs : Octets) : Bool × Octets × Octets :=
  let cs := cs.dropWhile isBlank
  let (negative, cs) := match cs with
    | '-' :: cs => (true, cs)
    | cs => (false, cs)
  let whole := cs.takeWhile Char.isDigit
  let part := match cs.drop whole.length with
    | '.' :: cs => cs.takeWhile Char.isDigit
    | _ => []
  let whole := whole.dropWhile (· = '0')
  let part := (part.reverse.dropWhile (· = '0')).reverse
  (negative && !(whole.isEmpty && part.isEmpty), whole, part)

/-- the order of two natural numbers with a part behind the point -/
def compareDigits (a b : Octets × Octets) : Ordering :=
  ((compare a.1.length b.1.length).then (compareOctets a.1 b.1)).then (compareOctets a.2 b.2)

/-- the order of two numbers with a sign -/
def compareSigned (a b : Bool × Octets × Octets) : Ordering :=
  match a.1, b.1 with
  | false, false => compareDigits a.2 b.2
  | true, true => compareDigits b.2 a.2
  | true, false => .lt
  | false, true => .gt

/-- the size of the unit behind a number -/
def unitRank (cs : Octets) : Nat :=
  let cs := cs.dropWhile isBlank
  let cs := cs.dropWhile (· = '-')
  let rest := cs.dropWhile fun c => c.isDigit || c = '.'
  match rest with
  | 'k' :: _ => 1
  | c :: _ => ("KMGTPEZYRQ".toList.idxOf c + 1) % 11
  | [] => 0

/-- the order of two numbers with units -/
def compareHuman (a b : Octets) : Ordering :=
  let x := decimalOf a
  let y := decimalOf b
  let rank (d : Bool × Octets × Octets) (cs : Octets) : Int :=
    if d.2.1.isEmpty ∧ d.2.2.isEmpty then 0
    else (if d.1 then -1 else 1) * (unitRank cs : Int)
  (compare (rank x a) (rank y b)).then (compareSigned x y)

/-- the order of two numbers with exponents; what is no number comes first -/
def compareGeneral (a b : Octets) : Ordering :=
  let rank : Option (Double × Octets) → Nat
    | none => 0
    | some (.undefined, _) => 1
    | some _ => 2
  let x := Numeral.double a
  let y := Numeral.double b
  match x, y with
  | some (u, _), some (v, _) =>
    if rank x = 2 ∧ rank y = 2 then (if Double.lt u v then .lt else if Double.lt v u then .gt else .eq)
    else compare (rank x) (rank y)
  | _, _ => compare (rank x) (rank y)

/-- the number of a month, by its first letters -/
def monthOf (cs : Octets) : Nat :=
  let word := ((cs.dropWhile isBlank).take 3).map Char.toUpper
  let months := ["JAN", "FEB", "MAR", "APR", "MAY", "JUN", "JUL", "AUG", "SEP", "OCT", "NOV", "DEC"]
  (months.idxOf (String.ofList word) + 1) % 13

/-- the rank of an octet between numbers in a version -/
def versionRank (c : Char) : Int :=
  if c.isDigit then 0 else if c = '~' then -2 else if c.isAlpha then c.toNat else c.toNat + 256

/-- the order of the parts of two versions, in turn without digits and of digits -/
def compareVersionFrom : Nat → Octets → Octets → Ordering
  | 0, _, _ => .eq
  | fuel + 1, a, b =>
    if a.isEmpty ∧ b.isEmpty then .eq
    else
      let rank (cs : Octets) : Int := match cs with
        | [] => -1
        | c :: _ => versionRank c
      let plain (cs : Octets) : Bool := match cs with
        | [] => false
        | c :: _ => !c.isDigit
      if plain a ∨ plain b then
        match compare (rank a) (rank b) with
        | .eq => compareVersionFrom fuel a.tail b.tail
        | o => o
      else
        let digits (cs : Octets) : Octets := (cs.dropWhile (· = '0')).takeWhile Char.isDigit
        let rest (cs : Octets) : Octets := cs.dropWhile Char.isDigit
        match compareDigits (digits a, []) (digits b, []) with
        | .eq => compareVersionFrom fuel (rest a) (rest b)
        | o => o

/-- a text without the endings of file names behind it -/
def withoutEndings : Nat → Octets → Octets
  | 0, cs => cs
  | fuel + 1, cs =>
    let r := cs.reverse
    let letters := r.takeWhile fun c => c.isAlphanum || c = '~'
    match r.drop letters.length with
    | '.' :: rest =>
      match letters.getLast? with
      | some c => if (c.isAlpha ∨ c = '~') ∧ !rest.isEmpty then withoutEndings fuel rest.reverse else cs
      | none => cs
    | _ => cs

/-- the order of two versions -/
def compareVersion (a b : Octets) : Ordering :=
  if a.isEmpty ∨ b.isEmpty then compare a.length b.length
  else
    let fuel := a.length + b.length + 1
    let dotted (cs : Octets) : Bool := cs.head? = some '.'
    if dotted a != dotted b then (if dotted a then .lt else .gt)
    else
      let x := withoutEndings a.length a
      let y := withoutEndings b.length b
      (compareVersionFrom fuel x y).then (compareVersionFrom fuel a b)

/-- what counts of a text -/
def Manner.counted (m : Manner) (cs : Octets) : Octets :=
  let cs := if m.dictionary then cs.filter fun c => isBlank c || c.isAlphanum else cs
  let cs := if m.printing then cs.filter fun c => ' ' ≤ c && c ≤ '~' else cs
  if m.fold then cs.map Char.toUpper else cs

/-- the order of two keys -/
def Manner.compare (m : Manner) (a b : Octets) : Ordering :=
  let o := match m.kind with
    | .plain => compareOctets (m.counted a) (m.counted b)
    | .numeric => compareSigned (decimalOf a) (decimalOf b)
    | .general => compareGeneral a b
    | .human => compareHuman a b
    | .month => Ord.compare (monthOf a) (monthOf b)
    | .version => compareVersion (m.counted a) (m.counted b)
  if m.reversed then o.swap else o

/-- the order of lines -/
structure Ranking where
  keys : List Key := []
  mark : Option Char := none
  /-- lines whose keys are equal are equal, or keep their order -/
  unique : Bool := false
  stable : Bool := false
  /-- the last comparison, of whole lines, is reversed -/
  reversed : Bool := false

/-- the order of two lines by their keys -/
def Ranking.byKeys (r : Ranking) (a b : Octets) : Ordering :=
  r.keys.foldl (fun o k => o.then (k.manner.compare (k.part r.mark a) (k.part r.mark b))) .eq

/-- the order of two lines -/
def Ranking.compare (r : Ranking) (a b : Octets) : Ordering :=
  let last := compareOctets a b
  let last := if r.reversed then last.swap else last
  if r.keys.isEmpty then last
  else if r.unique ∨ r.stable then r.byKeys a b
  else (r.byKeys a b).then last

/-- lines without those that are equal to the one before them -/
def Ranking.distinct (r : Ranking) : List Octets → List Octets
  | a :: b :: ls =>
    if r.compare a b = .eq then distinct r (a :: ls) else a :: distinct r (b :: ls)
  | ls => ls

/-- the first line that is out of order, with its number -/
def Ranking.disorder? (r : Ranking) (number : Nat) : List Octets → Option (Nat × Octets)
  | a :: b :: ls =>
    let o := r.compare a b
    if o = .gt ∨ (r.unique ∧ o = .eq) then some (number + 1, b) else disorder? r (number + 1) (b :: ls)
  | _ => none

/-! ## the program -/

/-- the letters of options about the manner -/
def mannerLetters : List Char := "bdfghiMnrV".toList

/-- the options -/
def flags : List Flag := [.on 'b' "ignore-leading-blanks", .on 'd' "dictionary-order", .on 'f' "ignore-case",
  .on 'g' "general-numeric-sort", .on 'i' "ignore-nonprinting", .on 'M' "month-sort",
  .on 'h' "human-numeric-sort", .on 'n' "numeric-sort", .on 'R' "random-sort", .on 'r' "reverse",
  .on 'V' "version-sort", { letter := some 'c', word := "check", takes := .maybe }, .on 'C', .on 'm' "merge",
  .valued 'k' "key", .valued 'o' "output", .on 's' "stable", .valued 'S' "buffer-size",
  .valued 't' "field-separator", .valued 'T' "temporary-directory", .on 'u' "unique",
  .on 'z' "zero-terminated", .long "parallel" .value, .long "debug"]

/-- the mark between fields that an option asks for -/
def markOf (cs : Octets) : Except Octets Char :=
  match cs with
  | [c] => .ok c
  | ['\\', '0'] => .ok '\x00'
  | [] => .error "empty tab".toList
  | cs => .error ("multi-character tab ".toList ++ Octets.quoted cs)

/-- the order that options ask for -/
def rankingOf (o : Options) : Except Octets Ranking := do
  let whole := o.given.foldl (fun (m : Manner) g =>
    match g.1.toList with
    | [c] => (m.letter? true true c).getD m
    | _ => m) {}
  let keys ← (o.all "k").mapM Key.read
  let mark ← match o.last? "t" with
    | some cs => (markOf cs).map some
    | none => pure none
  let keys := keys.map fun k => if k.manner.isUnsaid then { k with manner := whole } else k
  let keys := if keys.isEmpty ∧ !({ whole with reversed := false }).isUnsaid then [{ manner := whole }] else keys
  match (keys.map (·.manner) ++ [whole]).findSome? Manner.conflict? with
  | some letters => throw ("options '-".toList ++ letters ++ "' are incompatible".toList)
  | none => return { keys, mark, unique := o.has "u", stable := o.has "s", reversed := whole.reversed }

end Sorting

/-- the lines of files in order -/
def sort : Program := withOptions Sorting.flags (fun _ s name o => do
  match Sorting.rankingOf o with
  | .error e => s.fail name e 2
  | .ok ranking => do
    let checks := o.has "c" || o.has "C"
    match (if checks then o.operands.drop 1 else []) with
    | extra :: _ => 
        s.fail name ("extra operand ".toList ++ Octets.scriptQuoted extra ++ " not allowed with -".toList ++
          (if o.has "C" then ['C'] else ['c'])) 2
    | [] => do
      let zero := o.has "z"
      let mark := if zero then '\x00' else '\n'
      let mut lines : List (List Octets) := []
      for p in o.files do
        match ← s.contents p with
        | .ok cs => lines := recordsOf zero cs :: lines
        | .error .isDirectory => return ← s.fail name ("read failed: ".toList ++ p ++ ": Is a directory".toList) 2
        | .error e => return ← s.fail name ("cannot read: ".toList ++ p ++ ": ".toList ++ errorText e) 2
      let every := lines.reverse.flatten
      if checks then
        match ranking.disorder? 1 every with
        | none => return 0
        | some (n, l) => do
          if !o.has "C" then
            s.complaint name ((o.files.headD []) ++ ':' :: Octets.ofNat n ++ ": disorder: ".toList ++ l)
          return 1
      else do
        let sorted := every.mergeSort fun a b => ranking.compare a b ≠ .gt
        let sorted := if ranking.unique then ranking.distinct sorted else sorted
        let text := sorted.flatMap fun l => l ++ [mark]
        match o.last? "o" with
        | none => do
          s.say text
          return 0
        | some path =>
          match ← openFile s.numbers s.here path .writing with
          | .ok c => do
            write c text
            return 0
          | .error e => s.fail name ("open failed: ".toList ++ path ++ ": ".toList ++ errorText e) 2) 2

/-! ## lines that are equal -/

namespace Unique

/-- what of a line is compared -/
structure Manner where
  fields : Nat := 0
  skipped : Nat := 0
  most : Option Nat := none
  fold : Bool := false

/-- a text behind so many fields -/
def afterFields : Nat → Octets → Octets
  | 0, cs => cs
  | n + 1, cs => afterFields n ((cs.dropWhile fun c => c = ' ' || c = '\t').dropWhile fun c => !(c = ' ' || c = '\t'))

/-- what of a line is compared -/
def Manner.counted (m : Manner) (line : Octets) : Octets :=
  let cs := (afterFields m.fields line).drop m.skipped
  let cs := match m.most with
    | some n => cs.take n
    | none => cs
  if m.fold then cs.map Char.toUpper else cs

/-- lines in groups of those that are equal -/
def Manner.groups (m : Manner) : List Octets → List (List Octets)
  | [] => []
  | l :: ls =>
    match groups m ls with
    | (k :: ks) :: gs => if m.counted l = m.counted k then (l :: k :: ks) :: gs else [l] :: (k :: ks) :: gs
    | gs => [l] :: gs

/-- the options -/
def flags : List Flag := [.on 'c' "count", .on 'd' "repeated", .on 'D', .long "all-repeated" .maybe,
  .valued 'f' "skip-fields", .on 'i' "ignore-case", .valued 's' "skip-chars", .on 'u' "unique",
  .on 'z' "zero-terminated", .valued 'w' "check-chars"]

/-- a number that an option is given -/
def numberOf (o : Options) (key what : String) : Except Octets (Option Nat) :=
  match o.last? key with
  | none => .ok none
  | some cs =>
    match size? cs with
    | some n => .ok (some n)
    | none => .error (cs ++ ": invalid number of ".toList ++ what.toList)

/-- what of a line is compared, as options say -/
def mannerOf (o : Options) : Except Octets Manner := do
  return {
    fields := (← numberOf o "f" "fields to skip").getD 0
    skipped := (← numberOf o "s" "bytes to skip").getD 0
    most := ← numberOf o "w" "bytes to compare"
    fold := o.has "i" }

end Unique

/-- lines of which several in a row are equal, once -/
def uniq : Program := withOptions Unique.flags fun _ s name o => do
  match Unique.mannerOf o with
  | .error e => s.fail name e
  | .ok manner =>
    let every := o.has "D" || o.has "all-repeated"
    if every ∧ o.has "c" then
      s.refuse name "printing all duplicated lines and repeat counts is meaningless".toList
    else
      match o.operands.drop 2 with
      | extra :: _ => s.refuse name (extraOperand extra)
      | [] => do
        let input := o.operands.headD ['-']
        match ← s.contents input with
        | .error .isDirectory => s.fail name ("error reading ".toList ++ Octets.scriptQuoted input ++ ": Is a directory".toList)
        | .error e => s.fail name (Octets.scriptQuotedIfNeeded input ++ ": ".toList ++ errorText e)
        | .ok cs => do
          let zero := o.has "z"
          let mark := if zero then '\x00' else '\n'
          let groups := manner.groups (recordsOf zero cs)
          let groups := groups.filter fun g =>
            if every then 1 < g.length
            else if o.has "d" ∧ o.has "u" then false
            else if o.has "d" then 1 < g.length
            else if o.has "u" then g.length = 1
            else true
          let text := groups.flatMap fun g =>
            let shown := if every then g else g.take 1
            let count := if o.has "c" then Copy.aligned 7 g.length ++ [' '] else []
            shown.flatMap fun l => count ++ l ++ [mark]
          match o.operands.drop 1 with
          | [] | [['-']] => do
            s.say text
            return 0
          | path :: _ =>
            match ← openFile s.numbers s.here path .writing with
            | .ok c => do
              write c text
              return 0
            | .error e => s.fail name (Octets.scriptQuotedIfNeeded path ++ ": ".toList ++ errorText e)

/-! ## lines in common -/

/-- the lines of two files, each with the column in which it stands -/
def commonLines : Nat → List Octets → List Octets → List (Nat × Octets)
  | 0, _, _ => []
  | _, as, [] => as.map fun a => (1, a)
  | _, [], bs => bs.map fun b => (2, b)
  | fuel + 1, a :: as, b :: bs =>
    if a = b then (3, a) :: commonLines fuel as bs
    else if Octets.before a b then (1, a) :: commonLines fuel as (b :: bs)
    else (2, b) :: commonLines fuel (a :: as) bs

/-- the lines that two files have in common, and those that only one has -/
def comm : Program := withOptions [.on '1', .on '2', .on '3', .long "check-order", .long "nocheck-order",
    .long "output-delimiter" .value, .long "total", .on 'z' "zero-terminated"] fun _ s name o => do
  match o.operands with
  | [] => s.refuse name "missing operand".toList
  | [a] => s.refuse name ("missing operand after ".toList ++ Octets.quoted a)
  | a :: b :: more =>
    match more with
    | extra :: _ => s.refuse name (extraOperand extra)
    | [] => do
      match ← s.contents a with
      | .error e => s.fail name (Octets.scriptQuotedIfNeeded a ++ ": ".toList ++ errorText e)
      | .ok x =>
        match ← s.contents b with
        | .error e => s.fail name (Octets.scriptQuotedIfNeeded b ++ ": ".toList ++ errorText e)
        | .ok y => do
          let zero := o.has "z"
          let mark := if zero then '\x00' else '\n'
          let as := recordsOf zero x
          let bs := recordsOf zero y
          let delimiter := (o.last? "output-delimiter").getD ['\t']
          let shown (n : Nat) : Bool := !o.has (toString n)
          let rows := commonLines (as.length + bs.length) as bs
          let row (r : Nat × Octets) : Octets :=
            if !shown r.1 then []
            else
              let before := ([1, 2].filter fun n => n < r.1 ∧ shown n).flatMap fun _ => delimiter
              before ++ r.2 ++ [mark]
          s.say (rows.flatMap row)
          let ranking : Sorting.Ranking := {}
          let first := (ranking.disorder? 1 as).isSome
          let second := (ranking.disorder? 1 bs).isSome
          if o.has "nocheck-order" ∨ !(first || second) ∨ as = bs then return 0
          else do
            if first then s.complaint name "file 1 is not in sorted order".toList
            if second then s.complaint name "file 2 is not in sorted order".toList
            s.fail name "input is not in sorted order".toList

/-! ## the last first -/

/-- pieces that end with a separator, or start with it -/
def piecesOf (before : Bool) (separator cs : Octets) : List Octets :=
  match Text.split separator cs with
  | [] => []
  | p :: ps =>
    if before then p :: ps.map fun x => separator ++ x
    else
      let all := p :: ps
      (all.dropLast.map fun x => x ++ separator) ++ (match all.getLast? with
        | some [] | none => []
        | some x => [x])

/-- the lines of files, the last first -/
def tac : Program := withOptions [.on 'b' "before", .on 'r' "regex", .valued 's' "separator"] fun _ s name o => do
  let separator := (o.last? "s").getD ['\n']
  let separator := if separator.isEmpty then ['\x00'] else separator
  let mut status := 0
  for p in o.files do
    match ← s.contents p with
    | .ok cs => s.say (piecesOf (o.has "b") separator cs).reverse.flatten
    | .error e => do
      s.complaint name (match e with
        | .isDirectory => Octets.scriptQuotedIfNeeded p ++ ": read error: Invalid argument".toList
        | e => "failed to open ".toList ++ Octets.scriptQuoted p ++ " for reading: ".toList ++ errorText e)
      status := 1
  return status

end Debate.Shell
