import Debate.Shell.Escape
import Debate.Shell.Options

/-!
# Putting octets in place of others

* `Substitute.Element`    what a set of octets is written with;
* `tr`                 the input with other octets, without some, or with those once that follow each other.
-/

namespace Debate.Shell

namespace Substitute

/-! ## sets -/

/-- what a set is written with: octets, a class of letters, or an octet as often as it is needed -/
inductive Element where
  | octet (c : Char)
  | upper
  | lower
  /-- other classes, which stand for all their members -/
  | members (cs : Octets) (equivalent : Bool)
  | filling (c : Char)
  deriving DecidableEq, Repr

/-- all octets -/
def every : Octets := (List.range 256).map Char.ofNat

/-- the members of a class -/
def membersOf? (name : Octets) : Option Octets :=
  let ink (c : Char) : Bool := '!' ≤ c && c ≤ '~'
  let test : Option (Char → Bool) := match String.ofList name with
    | "alpha" => some Char.isAlpha
    | "digit" => some Char.isDigit
    | "alnum" => some Char.isAlphanum
    | "space" => some Octets.isSpace
    | "blank" => some fun c => c = ' ' || c = '\t'
    | "punct" => some fun c => ink c && !c.isAlphanum
    | "print" => some fun c => ink c || c = ' '
    | "graph" => some ink
    | "cntrl" => some fun c => c.toNat < 32 || c.toNat = 127
    | "xdigit" => some isHexadecimal
    | _ => none
  test.map fun t => every.filter t

/-- a character of a set, with whether a backslash stood in front of it -/
abbrev Written := Char × Bool

/-- the characters of a set; the escapes are gone, and a backslash at the end stands for itself -/
def written : Nat → Octets → List Written
  | 0, _ => []
  | _, [] => []
  | _, ['\\'] => [('\\', true)]
  | fuel + 1, '\\' :: c :: cs =>
    if isOctal c then
      let ds := (c :: cs).takeWhile isOctal |>.take 3
      let ds := if 255 < valueToBase 8 ds then ds.take 2 else ds
      (octetOf (valueToBase 8 ds), true) :: written fuel ((c :: cs).drop ds.length)
    else
      (if c = 'e' then 'e' else (letterOctet? c).getD c, true) :: written fuel cs
  | fuel + 1, c :: cs => (c, false) :: written fuel cs

/-- whether the backslash at the end of a text stands for itself -/
def isLoose (cs : Octets) : Bool := (cs.reverse.takeWhile (· = '\\')).length % 2 = 1

/-- a named class or an equivalence after its bracket: the name up to the mark and the closing bracket -/
def named? (mark : Char) : List Written → Option (Octets × List Written)
  | (m, false) :: (']', false) :: ws => if m = mark then some ([], ws) else
      (named? mark ((']', false) :: ws)).map fun r => (m :: r.1, r.2)
  | (c, _) :: ws => (named? mark ws).map fun r => (c :: r.1, r.2)
  | [] => none

/-- how often an octet is repeated, up to the closing bracket -/
def repeats? (ws : List Written) : Option (Octets × List Written) :=
  let ds := ws.takeWhile fun w => w ≠ (']', false)
  match ws.drop ds.length with
  | _ :: rest => some (ds.map (·.1), rest)
  | [] => none

/-- octets between two -/
def range (a b : Char) : Octets := (List.range (b.toNat + 1 - a.toNat)).map fun k => Char.ofNat (a.toNat + k)

/-- how an octet is shown in a message -/
def shown (c : Char) : Octets :=
  if ' ' ≤ c ∧ c ≤ '~' then [c]
  else
    let ds := Nat.toDigits 8 c.toNat
    '\\' :: (List.replicate (3 - ds.length) '0' ++ ds)

/-- how often a repeated octet is written: as many times as digits say, to the base eight after a zero -/
def countOf? (ds : Octets) : Option Nat :=
  match ds with
  | '0' :: _ => if ds.all isOctal then some (valueToBase 8 ds) else none
  | [] => some 0
  | ds => Octets.natural? ds

/-- an octet that is repeated, after the bracket; `onward` reads what comes behind it -/
def repeated (plain : Except Octets (List Element))
    (onward : List Written → Except Octets (List Element)) :
    List Written → Except Octets (List Element)
  | (x, _) :: ('*', false) :: rest =>
    match repeats? rest with
    | none => plain
    | some (ds, rest) =>
      match countOf? ds with
      | some 0 => do return .filling x :: (← onward rest)
      | some n => do return List.replicate n (.octet x) ++ (← onward rest)
      | none => .error ("invalid repeat count ".toList ++ Octets.quoted ds ++ " in [c*n] construct".toList)
  | _ => plain

/-- a set as it is written -/
def units : Nat → List Written → Except Octets (List Element)
  | 0, _ => .ok []
  | _, [] => .ok []
  | fuel + 1, (c, escaped) :: ws =>
    let bracket := c = '[' ∧ !escaped
    let plain : Except Octets (List Element) :=
      match ws with
      | ('-', false) :: (d, _) :: rest =>
        if c ≤ d then do return (range c d).map .octet ++ (← units fuel rest)
        else .error ("range-endpoints of '".toList ++ shown c ++ '-' :: shown d ++
          "' are in reverse collating sequence order".toList)
      | ws => do return .octet c :: (← units fuel ws)
    if !bracket then plain
    else
      match ws with
      | (':', false) :: rest =>
        match named? ':' rest with
        | some (name, rest) =>
          match String.ofList name with
          | "upper" => do return .upper :: (← units fuel rest)
          | "lower" => do return .lower :: (← units fuel rest)
          | _ =>
            match membersOf? name with
            | some cs => do return .members cs false :: (← units fuel rest)
            | none =>
              if name.isEmpty then .error "missing character class name '[::]'".toList
              else .error ("invalid character class ".toList ++ Octets.quoted name)
        | none => repeated plain (units fuel) ws
      | ('=', false) :: rest =>
        match named? '=' rest with
        | some ([x], rest) => do return .members [x] true :: (← units fuel rest)
        | some ([], _) => .error "missing equivalence class character '[==]'".toList
        | some (name, _) => .error (name ++ ": equivalence class operand must be a single character".toList)
        | none => repeated plain (units fuel) ws
      | ws => repeated plain (units fuel) ws

/-- a set as it is written -/
def read (cs : Octets) : Except Octets (List Element) :=
  let ws := written cs.length cs
  units ws.length ws

/-- the octets that a unit stands for -/
def Element.octets : Element → Octets
  | .octet c => [c]
  | .upper => every.filter Char.isUpper
  | .lower => every.filter Char.isLower
  | .members cs _ => cs
  | .filling _ => []

/-- whether a unit is a class of letters in one case -/
def Element.isCase (u : Element) : Bool := u = .upper || u = .lower

/-- whether a unit is a class -/
def Element.isClass : Element → Bool
  | .upper | .lower => true
  | .members _ equivalent => !equivalent
  | _ => false

/-- whether a unit is an octet as often as it is needed -/
def Element.isFilling : Element → Bool
  | .filling _ => true
  | _ => false

/-- the octets of a set -/
def octets (us : List Element) : Octets := us.flatMap Element.octets

/-- how many octets a set has -/
def size (us : List Element) : Nat := us.foldl (fun n u => n + u.octets.length) 0

/-- a set in which an octet that is repeated as often as needed is so often there that it is as large as
another one -/
def filled (most : Nat) (us : List Element) : List Element :=
  let rest := size us
  us.flatMap fun u =>
    match u with
    | .filling c => List.replicate (most - rest) (.octet c)
    | u => [u]

/-! ## the pairs of two sets -/

/-- which octet stands for which one; the last octet of the second set stands for all that are left -/
def pairs : Nat → Option Char → List Element → List Element → Except Octets (List (Char × Char))
  | 0, _, _, _ => .ok []
  | fuel + 1, last, as, bs =>
    match bs with
    | [] =>
      match last with
      | some c => .ok ((octets as).map fun a => (a, c))
      | none => .ok []
    | b :: bs' =>
      if b.isCase then
        match as with
        | a :: as' =>
          if a.isCase then do
            let change (c : Char) : Char :=
              if a = .lower ∧ b = .upper then c.toUpper else if a = .upper ∧ b = .lower then c.toLower else c
            if bs'.isEmpty ∧ !as'.isEmpty then
              .error "when translating with string1 longer than string2,\nthe latter string must not end with a character class".toList
            else return a.octets.map (fun c => (c, change c)) ++ (← pairs fuel none as' bs')
          else .error "misaligned [:upper:] and/or [:lower:] construct".toList
        | [] => .error "misaligned [:upper:] and/or [:lower:] construct".toList
      else
        match as with
        | [] => .ok []
        | .octet a :: as' =>
          match b with
          | .octet c => do return (a, c) :: (← pairs fuel (some c) as' bs')
          | b => pairs fuel last as (b.octets.map .octet ++ bs')
        | a :: as' => pairs fuel last (a.octets.map .octet ++ as') bs

/-- octets in the place of others; of several rules for one octet the last counts -/
def table (ps : List (Char × Char)) : Array Char :=
  ps.foldl (fun t p => t.set! p.1.toNat p.2) every.toArray

/-- which octets belong to a set -/
def tableOf (cs : Octets) : Array Bool :=
  cs.foldl (fun t c => t.set! c.toNat true) (Array.replicate 256 false)

/-- whether an octet belongs to a set -/
def isIn (t : Array Bool) (c : Char) : Bool := (t[c.toNat]?).getD false

/-- a text in which of octets of a set that follow each other one is left -/
def squeeze (t : Array Bool) (last : Option Char) : Octets → Octets
  | [] => []
  | c :: cs => if last = some c ∧ isIn t c then squeeze t last cs else c :: squeeze t (some c) cs

/-- what is wrong with two sets between which octets are exchanged; the first may be of all others -/
def mistake? (complement truncated : Bool) (as bs : List Element) : Option String :=
  if bs.any fun u => match u with
      | .members _ equivalent => equivalent
      | _ => false then
    some "[=c=] expressions may not appear in string2 when translating"
  else if bs.any fun u => match u with
      | .members _ equivalent => !equivalent
      | _ => false then
    some "when translating, the only character classes that may appear in\nstring2 are 'upper' and 'lower'"
  else if complement ∧ size bs < size as ∧ !truncated ∧ (bs.getLast?.map Element.isClass).getD false then
    some "when translating with string1 longer than string2,\nthe latter string must not end with a character class"
  else if bs.isEmpty ∧ !as.isEmpty ∧ !truncated then
    some "when not truncating set1, string2 must be non-empty"
  else none

end Substitute

open Substitute in
/-- the input with other octets, without some, or with those once that follow each other -/
def tr : Program := withOptions [.on 'c' "complement", .on 'C', .on 'd' "delete", .on 's' "squeeze-repeats",
    .on 't' "truncate-set1"] (fun _ s name o => do
  let deletes := o.has "d"
  let squeezes := o.has "s"
  let complement := o.has "c" || o.has "C"
  let least := if deletes = squeezes then 2 else 1
  let most := if deletes ∧ !squeezes then 1 else 2
  let help : Act Nat := do
    s.complain ("Try '".toList ++ name ++ " --help' for more information.".toList)
    return 1
  if o.operands.length < least then
    match o.operands.getLast? with
    | none => s.refuse name "missing operand".toList
    | some a => do
      s.complaint name ("missing operand after ".toList ++ Octets.quoted a)
      s.complain (if squeezes then "Two strings must be given when both deleting and squeezing repeats.".toList
        else "Two strings must be given when translating.".toList)
      help
  else if most < o.operands.length then do
    s.complaint name (extraOperand ((o.operands.drop most).headD []))
    if o.operands.length = 2 then
      s.complain "Only one string may be given when deleting without squeezing repeats.".toList
    help
  else do
    for a in o.operands do
      if isLoose a then
        s.complaint name "warning: an unescaped backslash at end of string is not portable".toList
    let sets : Except Octets (List Element × Option (List Element)) := do
      let as ← read (o.operands.headD [])
      match o.operands.drop 1 with
      | b :: _ => return (as, some (← read b))
      | [] => return (as, none)
    match sets with
    | .error e => s.fail name e
    | .ok (as, bs) =>
      let translates := !deletes && bs.isSome
      let first := if complement then
          let t := tableOf (octets as)
          every.filter fun c => !isIn t c
        else octets as
      let firstUnits := if complement then first.map .octet else as
      let second := filled first.length (bs.getD [])
      if as.any Element.isFilling then
        s.fail name "the [c*] repeat construct may not appear in string1".toList
      else if 1 < ((bs.getD []).filter Element.isFilling).length then
        s.fail name "only one [c*] repeat construct may appear in string2".toList
      else if !translates ∧ (bs.getD []).any Element.isFilling then
        s.fail name "the [c*] construct may appear in string2 only when translating".toList
      else
        let truncated := o.has "t"
        let mistake := if translates then mistake? complement truncated firstUnits second else none
        let rules : Except Octets (List (Char × Char)) :=
          if !translates then .ok []
          else match mistake with
            | some e => .error e.toList
            | none =>
              let given := if truncated then
                  (octets firstUnits).take (octets second).length |>.map .octet
                else firstUnits
              pairs (2 * (given.length + second.length + 600)) none
                (if truncated ∧ second.all fun u => !u.isCase then given else firstUnits)
                (if complement then second.flatMap fun u => u.octets.map .octet else second)
        match rules with
        | .error e => s.fail name e
        | .ok rules =>
          if complement ∧ translates ∧ as.any Element.isClass ∧ (octets second).any (fun c => c ≠ (octets second).headD c) then
            s.fail name "when translating with complemented character classes,\nstring2 must map all characters in the domain to one".toList
          else
            match s.numbers.find? 0 with
            | none => s.fail name "read error: Bad file descriptor".toList
            | some c => do
              match (← get).channel c with
              | .directory => s.fail name "read error: Is a directory".toList
              | _ => do
                let cs ← readAll c
                let firsts := tableOf first
                let cs := if deletes then cs.filter fun c => !isIn firsts c else cs
                let exchange := table rules
                let cs := if translates then cs.map fun c => (exchange[c.toNat]?).getD c else cs
                let cs := if squeezes then
                    squeeze (match bs with
                      | some _ => tableOf (octets second)
                      | none => firsts) none cs
                  else cs
                s.say cs
                return 0) 1 true

end Debate.Shell
