import Debate.Shell.Regex

/-!
# Reading regular expressions

In the basic form groups, bounds and alternatives are written with a backslash, in the extended form
without. A star at the start of an expression stands for itself in the basic form.

* `Regex.Dialect`   the form that an expression is written in;
* `Regex.read`      the expression that a text writes, or what is wrong with it.
-/

namespace Debate.Shell.Regex

/-- the form that an expression is written in -/
structure Dialect where
  extended : Bool := false
  /-- a backslash and a letter may stand for a control character -/
  letters : Bool := false
  /-- a backslash is no ordinary character between square brackets either -/
  inBrackets : Bool := false
  /-- edges of words, and what a group holds, can be written -/
  words : Bool := true
  /-- a bracket without a partner stands for itself -/
  looseBrackets : Bool := false
  /-- what repeats stands behind something, and in the basic form not twice -/
  strict : Bool := false
  /-- nothing is left out: alternatives, groups, and what repeats; a range between square brackets that is the
  wrong way round is no range -/
  complete : Bool := false
  /-- the name of a class in one bracket only is a mistake -/
  doubleBrackets : Bool := false
  /-- a dot stands for a line feed too, and so does what is not in a bracket -/
  lineFeeds : Bool := true
  deriving DecidableEq, Repr

/-- what is left of a text, and how many groups were read -/
structure Source where
  rest : List Char
  groups : Nat := 0
  /-- the groups that are complete -/
  closed : List Nat := []

/-! ## square brackets -/

/-- a name between two marks such as colons, and what follows the closing bracket -/
def named (mark : Char) : List Char → Option (List Char × List Char)
  | c :: ']' :: cs => if c = mark then some ([], cs) else (named mark (']' :: cs)).map fun r => (c :: r.1, r.2)
  | c :: cs => (named mark cs).map fun r => (c :: r.1, r.2)
  | [] => none

/-- the control character that a letter stands for after a backslash -/
def control? : Char → Option Char
  | 'n' => some '\n'
  | 't' => some '\t'
  | 'r' => some '\r'
  | 'f' => some '\x0c'
  | 'v' => some '\x0b'
  | 'a' => some '\x07'
  | _ => none

/-- what an element of a bracket is: a class, or a character -/
inductive Element where
  | cls (c : CharacterClass)
  | char (c : Char)

/-- the next element of a bracket, and what follows it -/
def element (d : Dialect) : List Char → Except String (Element × List Char)
  | '[' :: ':' :: cs =>
    match named ':' cs with
    | some (name, rest) =>
      match CharacterClass.ofName? name with
      | some c => .ok (.cls c, rest)
      | none => .error "Invalid character class name"
    | none => .error "Unmatched [, [^, [:, [., or [="
  | '[' :: '=' :: cs | '[' :: '.' :: cs =>
    match cs with
    | x :: _ :: ']' :: rest => .ok (.char x, rest)
    | cs => .error (if cs.contains ']' then "Invalid collation character" else "Unmatched [, [^, [:, [., or [=")
  | '\\' :: c :: cs =>
    if d.inBrackets then
      match (if c = 'b' then some '\x08' else control? c) with
      | some x => .ok (.char x, cs)
      | none => .ok (.char c, cs)
    else if d.letters then
      match control? c with
      | some x => .ok (.char x, cs)
      | none => .ok (.char '\\', c :: cs)
    else .ok (.char '\\', c :: cs)
  | c :: cs => .ok (.char c, cs)
  | [] => .error "Unmatched [, [^, [:, [., or [="

/-- the elements of a bracket up to its end -/
def elements (d : Dialect) : Nat → Bool → List (Char × Char) → List CharacterClass → List Char →
    Except String (List (Char × Char) × List CharacterClass × List Char)
  | 0, _, _, _, _ => .error "Unmatched [, [^, [:, [., or [="
  | fuel + 1, first, ranges, classes, cs =>
    match first, cs with
    | false, ']' :: cs => .ok (ranges, classes, cs)
    | _, cs => do
      match ← element d cs with
      | (.cls c, cs) => elements d fuel false ranges (c :: classes) cs
      | (.char a, cs) =>
        match cs with
        | '-' :: ']' :: _ => elements d fuel false ((a, a) :: ranges) classes cs
        | '-' :: rest => do
          match ← element d rest with
          | (.char b, rest) =>
            if a ≤ b then elements d fuel false ((a, b) :: ranges) classes rest
            else if d.complete then elements d fuel false ((a, a) :: ('-', '-') :: (b, b) :: ranges) classes rest
            else throw "Invalid range end"
          | (.cls _, _) => throw "Invalid range end"
        | cs => elements d fuel false ((a, a) :: ranges) classes cs

/-- the complaint about the name of a class that stands in one bracket only -/
def singleBracket : String := "character class syntax is [[:space:]], not [:space:]"

/-- whether a bracket looks like the name of a class -/
def looksNamed (cs : List Char) : Bool :=
  let inner := cs.takeWhile (· ≠ ']')
  3 ≤ inner.length && inner.head? = some ':' && inner.getLast? = some ':' &&
    !inner.any (fun c => c = '[' || c = '-') && inner.length < cs.length

/-- a bracket after its opening mark -/
def bracket (d : Dialect) (cs : List Char) : Except String (Regex × List Char) := do
  if d.doubleBrackets ∧ looksNamed cs then throw singleBracket
  if d.words ∧ (cs = [] ∨ cs = ['^']) then throw "Invalid regular expression"
  let (negated, cs) := match cs with
    | '^' :: cs => (true, cs)
    | cs => (false, cs)
  let (ranges, classes, rest) ← elements d (cs.length + 1) true [] [] cs
  return (.set negated (if negated ∧ !d.lineFeeds then ('\n', '\n') :: ranges else ranges) classes, rest)

/-! ## bounds -/

/-- the number that digits write, if there are any -/
def digits (cs : List Char) : Option Nat × List Char :=
  let ds := cs.takeWhile Char.isDigit
  (Octets.natural? ds, cs.drop ds.length)

/-- the bounds of a repetition after their opening mark -/
def bounds? (d : Dialect) (cs : List Char) : Option (Nat × Option Nat × List Char) :=
  let close (cs : List Char) : Option (List Char) :=
    match d.extended, cs with
    | true, '\x7d' :: cs => some cs
    | false, '\\' :: '\x7d' :: cs => some cs
    | _, _ => none
  let (least, cs) := digits cs
  match cs with
  | ',' :: cs =>
    let (most, cs) := digits cs
    if least.isNone ∧ most.isNone then (close cs).map fun cs => (0, none, cs)
    else (close cs).map fun cs => (least.getD 0, most, cs)
  | cs => least.bind fun n => (close cs).map fun cs => (n, some n, cs)

/-! ## expressions -/

/-- what may follow an expression to repeat it -/
inductive Suffix where
  | bounds (least : Nat) (most : Option Nat)
  | invalid

/-- a mark that repeats what stands in front of it, and what follows it -/
def suffix? (d : Dialect) : List Char → Option (Suffix × List Char)
  | '*' :: cs => some (.bounds 0 none, cs)
  | '\\' :: '+' :: cs => if d.extended then none else some (.bounds 1 none, cs)
  | '\\' :: '?' :: cs => if d.extended then none else some (.bounds 0 (some 1), cs)
  | '\\' :: '\x7b' :: cs =>
    if d.extended then none
    else
      match bounds? d cs with
      | some (l, m, cs) => some (.bounds l m, cs)
      | none => some (.invalid, cs)
  | '+' :: cs => if d.extended then some (.bounds 1 none, cs) else none
  | '?' :: cs => if d.extended then some (.bounds 0 (some 1), cs) else none
  | '\x7b' :: cs =>
    if !d.extended then none
    else
      match bounds? d cs with
      | some (l, m, cs) => some (.bounds l m, cs)
      | none => if d.strict ∨ (d.complete ∧ cs.head? = some '\x7d') then some (.invalid, cs) else none
  | _ => none

/-- the marks that repeat what stands in front of them -/
def suffixes (d : Dialect) : Nat → Regex → List Char → Except String (Regex × List Char)
  | 0, r, cs => .ok (r, cs)
  | fuel + 1, r, cs =>
    match suffix? d cs with
    | some (.bounds least most, cs) =>
      if most.any (· < least) then .error "Invalid content of \\\x7b\\\x7d"
      else if 32767 < max least (most.getD 0) then .error "Regular expression too big"
      else
        match d.strict && !d.extended, cs with
        | true, '*' :: _ | true, '\\' :: '\x7b' :: _ => .error "Invalid preceding regular expression"
        | _, cs => suffixes d fuel (.repeated r least most) cs
    | some (.invalid, rest) =>
      if Text.contains (if d.extended then ['\x7d'] else ['\\', '\x7d']) rest then .error "Invalid content of \\\x7b\\\x7d"
      else .error "Unmatched \\\x7b"
    | none => .ok (r, cs)

/-- what a backslash and a character stand for -/
def escape (d : Dialect) (s : Source) (c : Char) : Except String Regex :=
  if !d.words then
    match (if c = 'b' then some '\x08' else control? c) with
    | some x => .ok (.char x)
    | none => .ok (.char c)
  else
    match c with
    | 'w' => .ok (.set false [] [.word])
    | 'W' => .ok (.set true [] [.word])
    | 's' => .ok (.set false [] [.space])
    | 'S' => .ok (.set true [] [.space])
    | 'b' => .ok .wordEdge
    | 'B' => .ok .noWordEdge
    | '<' => .ok .wordStart
    | '>' => .ok .wordEnd
    | '\'' => .ok .textEnd
    | c =>
      if c.toNat = 96 then .ok .textStart
      else if c.isDigit ∧ c ≠ '0' then
        if s.closed.contains (c.toNat - 48) then .ok (.backReference (c.toNat - 48))
        else .error "Invalid back reference"
      else
        match (if d.letters then control? c else none) with
        | some x => .ok (.char x)
        | none => .ok (.char c)

/-- the octal number that up to three digits write, and what follows them -/
def octalEscape : Nat → Nat → List Char → Nat × List Char
  | 0, n, cs => (n, cs)
  | _, n, [] => (n, [])
  | k + 1, n, c :: cs =>
    if '0' ≤ c ∧ c ≤ '7' then octalEscape k (8 * n + (c.toNat - 48)) cs else (n, c :: cs)

/-- whether an alternative ends here -/
def endsAlternative (d : Dialect) (depth : Nat) : List Char → Bool
  | [] => true
  | '|' :: _ => d.extended
  | ')' :: _ => d.extended && (depth ≠ 0 || (d.words && !d.looseBrackets))
  | '\\' :: '|' :: _ => !d.extended
  | '\\' :: ')' :: _ => !d.extended
  | _ => false

/-- whether a character repeats what stands in front of it in the extended form -/
def repeats (c : Char) : Bool := c = '*' || c = '+' || c = '?' || c = '\x7b'

/-- where in an alternative a piece stands -/
inductive Position where
  | start
  /-- behind the start of a line only -/
  | anchored
  | inside
  deriving DecidableEq, Repr

mutual

/-- alternatives up to the end of the text or of a group -/
def alternatives (d : Dialect) : Nat → Nat → Source → Except String (Regex × Source)
  | 0, _, _ => .error "Regular expression too big"
  | fuel + 1, depth, s => do
    if d.complete ∧ endsAlternative d depth s.rest then
      throw (if s.rest = [] ∧ depth ≠ 0 then "Unmatched ( or \\(" else "missing operand")
    let (r, s) ← sequence d fuel depth .start .empty s
    match d.extended, s.rest with
    | true, '|' :: cs | false, '\\' :: '|' :: cs => do
      let (r', s) ← alternatives d fuel depth { s with rest := cs }
      return (.either r r', s)
    | _, _ => return (r, s)

/-- what stands in one alternative -/
def sequence (d : Dialect) : Nat → Nat → Position → Regex → Source → Except String (Regex × Source)
  | 0, _, _, _, _ => .error "Regular expression too big"
  | fuel + 1, depth, place, before, s =>
    if endsAlternative d depth s.rest then .ok (before, s)
    else do
      let (r, s, anchored) ← atom d fuel depth place s
      let (r, rest) ← if anchored ∧ !d.extended then .ok (r, s.rest)
        else suffixes d (s.rest.length + 1) r s.rest
      let r := match before with
        | .empty => r
        | before => .seq before r
      sequence d fuel depth (if anchored ∧ !d.extended then .anchored else .inside) r { s with rest }

/-- the next piece of an alternative, and whether it is the start of a line -/
def atom (d : Dialect) : Nat → Nat → Position → Source → Except String (Regex × Source × Bool)
  | 0, _, _, _ => .error "Regular expression too big"
  | fuel + 1, depth, place, s =>
    let first := place ≠ .inside
    match s.rest with
    | [] => .error "Trailing backslash"
    | '[' :: cs => do
      let (r, rest) ← bracket d cs
      return (r, { s with rest }, false)
    | '.' :: cs => .ok (.any d.lineFeeds, { s with rest := cs }, false)
    | '^' :: cs =>
      if d.extended ∧ (d.strict ∨ d.complete) ∧ (cs.head?.map repeats).getD false then
        .error (if d.complete then "syntax error ^* or ^+" else "Invalid preceding regular expression")
      else if d.extended ∨ place = .start then .ok (.lineStart, { s with rest := cs }, true)
      else .ok (.char '^', { s with rest := cs }, false)
    | '$' :: cs =>
      if d.extended ∨ endsAlternative d (depth + 1) cs then .ok (.lineEnd, { s with rest := cs }, false)
      else .ok (.char '$', { s with rest := cs }, false)
    | '\\' :: [] =>
      if d.complete then .ok (.char '\\', { s with rest := [] }, false) else .error "Trailing backslash"
    | '\\' :: c :: cs =>
      if c = '(' ∧ !d.extended then groupAt d fuel depth { s with rest := cs }
      else if c = '\x7b' ∧ !d.extended then
        if first then .error "Invalid preceding regular expression"
        else .ok (.char c, { s with rest := cs }, false)
      else if !d.words ∧ '0' ≤ c ∧ c ≤ '7' then
        let (n, rest) := octalEscape 3 0 (c :: cs)
        .ok (.char (Char.ofNat (n % 256)), { s with rest }, false)
      else do
        let r ← escape d s c
        return (r, { s with rest := cs }, false)
    | '(' :: cs =>
      if d.extended then groupAt d fuel depth { s with rest := cs }
      else .ok (.char '(', { s with rest := cs }, false)
    | c :: cs =>
      if d.extended ∧ first ∧ c = '\x7b' ∧ d.strict then .error "Invalid preceding regular expression"
      else if d.extended ∧ first ∧ (c = '*' ∨ c = '+' ∨ c = '?') then
        if d.strict then .error "Invalid preceding regular expression"
        else if d.complete then .error "missing operand"
        else if d.words then .ok (.empty, { s with rest := cs }, false)
        else .ok (.char c, { s with rest := cs }, false)
      else .ok (.char c, { s with rest := cs }, false)

/-- a group after its opening mark -/
def groupAt (d : Dialect) : Nat → Nat → Source → Except String (Regex × Source × Bool)
  | 0, _, _ => .error "Regular expression too big"
  | fuel + 1, depth, s => do
    let n := s.groups + 1
    let (r, s) ← alternatives d fuel (depth + 1) { s with groups := n }
    match d.extended, s.rest with
    | true, ')' :: cs | false, '\\' :: ')' :: cs =>
      return (.group n r, { s with rest := cs, closed := n :: s.closed }, false)
    | _, _ => throw "Unmatched ( or \\("

end

/-- the expression that a text writes, or what is wrong with it -/
def read (d : Dialect) (cs : List Char) : Except String Regex := do
  if cs.isEmpty then return .empty
  let (r, s) ← alternatives d (4 * cs.length + 4) 0 { rest := cs }
  if s.rest.isEmpty then return r else throw "Unmatched ) or \\)"

/-- the basic form -/
def basic : Dialect := {}

/-- the extended form -/
def extended : Dialect := { extended := true }

example : ((read basic "\\(a*\\)b\\1".toList).toOption.map fun r =>
    r.matches? {} "aabaa".toList) = some true := by decide +kernel
example : ((read extended "^(x|yz)+$".toList).toOption.map fun r =>
    (r.matches? {} "xyzx".toList, r.matches? {} "xy".toList)) = some (true, false) := by decide +kernel

end Debate.Shell.Regex
