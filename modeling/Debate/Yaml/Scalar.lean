import Debate.Yaml.Cursor

/-!
# Scalars of a YAML text

A scalar is a text, plain, between quotes, or as a block of lines. Lines of a plain or quoted scalar
are joined by a blank; empty lines between them stand for line breaks. In a literal block every line
break stands for itself; in a folded one, lines are joined unless one of them is indented further.

* `plain`     a plain scalar;
* `quoted`    a scalar between single or double quotes;
* `block`     a block.
-/

namespace Debate.Yaml

/-- a scalar, the place after it, and whether a key may follow -/
structure Scanned where
  text : List Char
  cursor : Cursor
  /-- it ended with a line break -/
  broken : Bool := false

/-! ## joining lines -/

/-- the line breaks after a first one, with the blanks around them, and the place after them; nothing
if a marker follows one of them -/
def breaks? (isBlank : Char → Bool) : Nat → Cursor → Option (List Char × Cursor)
  | 0, c => some ([], c)
  | fuel + 1, c =>
    if c.seesMarker then none
    else
      let c := c.skipWhile isBlank
      match c.takeBreak with
      | none => some ([], c)
      | some (b, c) => (breaks? isBlank fuel c).map fun r => (b :: r.1, r.2)

/-- what a line break and those that follow it stand for -/
def folded (first : Char) (more : List Char) : List Char :=
  if first ≠ '\n' then first :: more else if more.isEmpty then [' '] else more

/-! ## plain scalars -/

/-- a character that is a mark inside brackets -/
def isFlowMark (c : Char) : Bool := c = ',' || c = '[' || c = ']' || c = '\x7b' || c = '\x7d'

/-- whether a colon in front of a character ends a plain scalar -/
def endsKey (flow : Bool) (next : Option Char) : Bool :=
  isGap next || (flow && (next.map isFlowMark).getD false)

/-- the characters of a plain scalar up to a gap -/
def plainRun (flow : Bool) : List Char → List Char
  | [] => []
  | c :: cs =>
    if isGap (some c) ∨ (c = ':' ∧ endsKey flow cs.head?) ∨ (flow ∧ (isFlowMark c ∨ c = '?')) then []
    else c :: plainRun flow cs

/-- the place after line breaks and blanks, or at a marker among them -/
def skipBreaks : Nat → Cursor → Cursor
  | 0, c => c
  | fuel + 1, c =>
    if c.seesMarker then c
    else
      let c := c.skipSpaces
      match c.takeBreak with
      | none => c
      | some (_, c) => skipBreaks fuel c

/-- what stands between two runs of a plain scalar: the characters it stands for, the place after it,
and whether it holds a line break; it stands for nothing if a marker follows -/
def plainGap (c : Cursor) : List Char × Cursor × Bool :=
  let (spaces, c) := c.span (· = ' ')
  match c.takeBreak with
  | none => (spaces, c, false)
  | some (b, c) =>
    match breaks? (· = ' ') (c.rest.length + 1) c with
    | some (more, c) => (folded b more, c, true)
    | none => ([], skipBreaks (c.rest.length + 1) c, true)

/-- the rest of a plain scalar after a gap -/
def plainFrom (flow : Bool) (indent : Int) : Nat → List Char → Bool → Cursor → Scanned
  | 0, _, broken, c => { text := [], cursor := c, broken }
  | fuel + 1, gap, broken, c =>
    let run := if c.sees '#' then [] else plainRun flow c.rest
    if run.isEmpty then { text := [], cursor := c, broken }
    else
      let (next, after, broken) := plainGap (c.skip run.length)
      let r : Scanned :=
        if next.isEmpty ∨ after.sees '#' ∨ (!flow ∧ (after.column : Int) < indent) then
          { text := [], cursor := after, broken }
        else plainFrom flow indent fuel next broken after
      { r with text := gap ++ run ++ r.text }

/-- a plain scalar -/
def plain (flow : Bool) (indent : Int) (c : Cursor) : Scanned :=
  plainFrom flow indent (c.rest.length + 1) [] false c

/-! ## quoted scalars -/

/-- what a letter stands for after a backslash -/
def escaped? (c : Char) : Option Char :=
  match c with
  | '0' => some '\x00'
  | 'a' => some '\x07'
  | 'b' => some '\x08'
  | 't' | '\t' => some '\t'
  | 'n' => some '\n'
  | 'v' => some '\x0b'
  | 'f' => some '\x0c'
  | 'r' => some '\r'
  | 'e' => some '\x1b'
  | ' ' | '"' | '\\' | '/' => some c
  | 'N' => some '\x85'
  | '_' => some '\xa0'
  | 'L' => some '\u2028'
  | 'P' => some '\u2029'
  | _ => none

/-- how many digits follow a letter after a backslash -/
def escapeWidth? (c : Char) : Option Nat :=
  match c with
  | 'x' => some 2
  | 'u' => some 4
  | 'U' => some 8
  | _ => none

/-- the value of a digit to the base sixteen -/
def hexDigit? (c : Char) : Option Nat :=
  if c.isDigit then some (c.toNat - 48)
  else if 'a' ≤ c ∧ c ≤ 'f' then some (c.toNat - 87)
  else if 'A' ≤ c ∧ c ≤ 'F' then some (c.toNat - 55)
  else none

/-- the number that digits to the base sixteen write -/
def hexNumber? (cs : List Char) : Option Nat :=
  cs.foldlM (fun n c => (hexDigit? c).map fun d => 16 * n + d) 0

/-- the character that an escape with digits stands for, and the place after it -/
def numbered (width : Nat) (c : Cursor) : Except Problem (Char × Cursor) :=
  let ds := c.rest.take width
  match hexNumber? ds with
  | some n =>
    if ds.length < width then .error .malformed
    else if 0x80000000 ≤ n then .error .excessive
    else if 0x110000 ≤ n then .error (.badNumber "chr() arg not in range(0x110000)")
    else .ok (if 0xD800 ≤ n ∧ n < 0xE000 then '\ufffd' else Char.ofNat n, c.skip width)
  | none => .error .malformed

/-- line breaks in a quoted scalar; a marker must not come after them -/
def quotedBreaks (c : Cursor) : Except Problem (List Char × Cursor) :=
  match breaks? (fun x => x = ' ' || x = '\t') (c.rest.length + 1) c with
  | some r => .ok r
  | none => .error .malformed

/-- a quoted scalar after its opening quote -/
def quotedFrom (double : Bool) : Nat → Cursor → Except Problem (List Char × Cursor)
  | 0, _ => .error .malformed
  | fuel + 1, c =>
    match c.rest with
    | [] => .error .malformed
    | x :: rest =>
      let more (cs : List Char) (c : Cursor) : Except Problem (List Char × Cursor) := do
        let (text, c) ← quotedFrom double fuel c
        return (cs ++ text, c)
      if x = ' ' ∨ x = '\t' ∨ isBreak x then
        let (blanks, c) := c.span fun x => x = ' ' || x = '\t'
        match c.takeBreak with
        | none => more blanks c
        | some (b, c) => do
          let (next, c) ← quotedBreaks c
          more (folded b next) c
      else if double ∧ x = '\\' then
        let c := c.advance
        match c.peek with
        | none => .error .malformed
        | some e =>
          match escaped? e, escapeWidth? e, c.takeBreak with
          | some r, _, _ => more [r] c.advance
          | none, some width, _ => do
            let (r, c) ← numbered width c.advance
            more [r] c
          | none, none, some (_, c) => do
            let (next, c) ← quotedBreaks c
            more next c
          | none, none, none => .error .malformed
      else if !double ∧ x = '\'' ∧ rest.head? = some '\'' then more ['\''] (c.skip 2)
      else if x = (if double then '"' else '\'') then .ok ([], c.advance)
      else more [x] c.advance

/-- a scalar between quotes -/
def quoted (double : Bool) (c : Cursor) : Except Problem Scanned := do
  let (text, cursor) ← quotedFrom double (c.rest.length + 1) c.advance
  return { text, cursor }

/-! ## blocks -/

/-- what becomes of the line breaks at the end of a block -/
inductive Chomping where
  | strip
  | clip
  | keep
  deriving DecidableEq, Repr

/-- the header of a block: its chomping, and its indentation if it is given -/
def header (c : Cursor) : Except Problem (Chomping × Option Nat × Cursor) :=
  let sign? (x : Char) : Option Chomping :=
    if x = '+' then some .keep else if x = '-' then some .strip else none
  let digit? (c : Cursor) : Except Problem (Option Nat × Cursor) :=
    match c.peek with
    | some d =>
      if d = '0' then .error .malformed
      else if d.isDigit then .ok (some (d.toNat - 48), c.advance)
      else .ok (none, c)
    | none => .ok (none, c)
  match c.peek.bind sign? with
  | some chomping => do
    let (n, c) ← digit? c.advance
    return (chomping, n, c)
  | none => do
    let (n, c) ← digit? c
    match n, c.peek.bind sign? with
    | some _, some chomping => return (chomping, n, c.advance)
    | _, _ => return (.clip, n, c)

/-- the rest of the line of a header: blanks and a comment -/
def headerEnd (c : Cursor) : Except Problem Cursor :=
  if !(c.sees ' ' || isBreakOrEnd c.peek) then .error .malformed
  else
    let c := c.skipSpaces
    let c := if c.sees '#' then c.skipLine else c
    if isBreakOrEnd c.peek then .ok ((c.takeBreak.map (·.2)).getD c) else .error .malformed

/-- the empty lines at the start of a block, and how far its first line is indented -/
def leading : Nat → Nat → Cursor → List Char × Nat × Cursor
  | 0, deepest, c => ([], deepest, c)
  | fuel + 1, deepest, c =>
    let c := c.skipSpaces
    let deepest := max deepest c.column
    match c.takeBreak with
    | none => ([], deepest, c)
    | some (b, c) =>
      let r := leading fuel deepest c
      (b :: r.1, r.2)

/-- blanks up to an indentation -/
def indentTo (indent : Nat) (c : Cursor) : Cursor :=
  c.skip ((c.rest.takeWhile (· = ' ')).take (indent - c.column)).length

/-- the empty lines of a block before a line -/
def blockBreaks (indent : Nat) : Nat → Cursor → List Char × Cursor
  | 0, c => ([], c)
  | fuel + 1, c =>
    let c := indentTo indent c
    match c.takeBreak with
    | none => ([], c)
    | some (b, c) =>
      let r := blockBreaks indent fuel c
      (b :: r.1, r.2)

/-- whether a line of a block starts here -/
def isLine (indent : Nat) (c : Cursor) : Bool := c.column = indent && c.peek.isSome

/-- the lines of a block: its text without the last break, the last break, the empty lines after it -/
def blockLines (fold : Bool) (indent : Nat) : Nat → Cursor → List Char × List Char × List Char × Cursor
  | 0, c => ([], [], [], c)
  | fuel + 1, c =>
    let flush := !c.at fun x => x = ' ' || x = '\t'
    let (text, c) := c.span fun x => !isBreak x
    let (last, c) := match c.takeBreak with
      | some (b, c) => ([b], c)
      | none => ([], c)
    let (more, c) := blockBreaks indent (c.rest.length + 1) c
    if isLine indent c then
      let joint :=
        if fold ∧ last = ['\n'] ∧ flush ∧ !c.at (fun x => x = ' ' || x = '\t') then
          (if more.isEmpty then [' '] else [])
        else last
      let r := blockLines fold indent fuel c
      (text ++ joint ++ more ++ r.1, r.2)
    else (text, last, more, c)

/-- a block after its mark -/
def block (fold : Bool) (parent : Int) (c : Cursor) : Except Problem Scanned := do
  let (chomping, given, c) ← header c.advance
  let c ← headerEnd c
  let least := (max (parent + 1) 1).toNat
  let (first, indent, c) := match given with
    | some n =>
      let indent := least + n - 1
      let (first, c) := blockBreaks indent (c.rest.length + 1) c
      (first, indent, c)
    | none =>
      let (first, deepest, c) := leading (c.rest.length + 1) 0 c
      (first, max least deepest, c)
  let (text, last, more, c) :=
    if isLine indent c then
      let r := blockLines fold indent (c.rest.length + 1) c
      (first ++ r.1, r.2)
    else ([], [], first, c)
  let ending := match chomping with
    | .strip => []
    | .clip => last
    | .keep => last ++ more
  return { text := text ++ ending, cursor := c, broken := true }

end Debate.Yaml
