import Debate.Yaml.Scalar

/-!
# The tokens of a YAML text

Objects and lists may be written by indentation, and an object's key is only known as one when the
colon after it is seen. So a place where a key may have started is remembered, one for each depth of
brackets, and the mark of the key is put in there afterwards. A key stands on one line and takes at
most 1024 characters.

* `Lexer`          the state while a text is read;
* `Lexer.next`     reads the next token, or a mark with those that it implies;
* `tokens`         the tokens of a text, in front of a problem if there is one.

A token that may be a key is only known when what follows it has been read, so a problem there hides
that token too. Tags are not read; neither are markers of a document's start.
-/

namespace Debate.Yaml

/-- a place where a key may have started -/
structure PossibleKey where
  /-- how many tokens stand before it -/
  position : Nat
  /-- nothing but a key can stand there -/
  required : Bool
  index : Nat
  line : Nat
  column : Nat
  deriving Repr

/-- the state while a text is read -/
structure Lexer where
  cursor : Cursor
  tokens : List Token := []
  /-- the depth of brackets -/
  depth : Nat := 0
  /-- the column of the innermost object or list, and those around it -/
  indent : Int := -1
  indents : List Int := []
  /-- a key may start here -/
  allowKey : Bool := true
  /-- the possible keys, by the depth of brackets -/
  keys : List (Nat × PossibleKey) := []
  ended : Bool := false
  deriving Repr

namespace Lexer

/-- the column -/
def column (l : Lexer) : Int := l.cursor.column

/-- one more token -/
def push (l : Lexer) (t : Token) : Lexer := { l with tokens := l.tokens ++ [t] }

/-- a token put in at a position -/
def insert (l : Lexer) (position : Nat) (t : Token) : Lexer :=
  { l with tokens := l.tokens.insertIdx position t }

/-! ## indentation -/

/-- the ends of what is indented further than a column -/
def unwindFrom (column : Int) : List Int → Lexer → Lexer
  | [], l => l
  | i :: is, l =>
    if column < l.indent then
      unwindFrom column is { l.push .blockEnd with indent := i, indents := is }
    else l

/-- the ends of what is indented further than a column; between brackets nothing is indented -/
def unwind (l : Lexer) (column : Int) : Lexer :=
  if l.depth = 0 then unwindFrom column l.indents l else l

/-- a further indentation, if the column is further to the right -/
def indentTo? (l : Lexer) (column : Int) : Option Lexer :=
  if l.indent < column then some { l with indents := l.indent :: l.indents, indent := column }
  else none

/-! ## possible keys -/

/-- the possible key at the depth at hand -/
def possible? (l : Lexer) : Option PossibleKey :=
  (l.keys.find? fun k => k.1 = l.depth).map (·.2)

/-- no possible key at the depth at hand -/
def forget (l : Lexer) : Lexer := { l with keys := l.keys.filter fun k => k.1 ≠ l.depth }

/-- the possible key at the depth at hand is given up, unless it was required -/
def giveUp (l : Lexer) : Except Problem Lexer :=
  match l.possible? with
  | some k => if k.required then .error .malformed else .ok l.forget
  | none => .ok l

/-- whether a possible key can no longer become one -/
def isStale (l : Lexer) (k : PossibleKey) : Bool :=
  k.line ≠ l.cursor.line || 1024 < l.cursor.index - k.index

/-- possible keys that can no longer become one are given up -/
def dropStale (l : Lexer) : Except Problem Lexer :=
  if l.keys.any fun k => l.isStale k.2 && k.2.required then .error .malformed
  else .ok { l with keys := l.keys.filter fun k => !l.isStale k.2 }

/-- a key may start here -/
def remember (l : Lexer) : Except Problem Lexer :=
  if l.allowKey then do
    let l ← l.giveUp
    let k : PossibleKey := {
      position := l.tokens.length
      required := l.depth = 0 ∧ l.indent = l.column
      index := l.cursor.index, line := l.cursor.line, column := l.cursor.column }
    return { l with keys := (l.depth, k) :: l.keys }
  else .ok l

/-! ## tokens -/

/-- a token of one character -/
def mark (l : Lexer) (t : Token) : Lexer := { l.push t with cursor := l.cursor.advance }

/-- the place of the next token: blanks, comments and line breaks are skipped, and a key may start
after a line break -/
def toNextFrom : Nat → Lexer → Lexer
  | 0, l => l
  | fuel + 1, l =>
    let c := l.cursor.skipSpaces
    let c := if c.sees '#' then c.skipLine else c
    match c.takeBreak with
    | some (_, c) => toNextFrom fuel { l with cursor := c, allowKey := l.allowKey || l.depth = 0 }
    | none => { l with cursor := c }

/-- the place of the next token -/
def toNext (l : Lexer) : Lexer :=
  let start := if l.cursor.index = 0 ∧ l.cursor.sees '\ufeff' then l.cursor.advance else l.cursor
  toNextFrom (start.rest.length + 1) { l with cursor := start }

/-- the end of the text -/
def finish (l : Lexer) : Except Problem Lexer := do
  let l ← (l.unwind (-1)).giveUp
  return { l.push .streamEnd with allowKey := false, keys := [], ended := true }

/-- the marker of a document's end -/
def endDocument (l : Lexer) : Except Problem Lexer := do
  let l ← (l.unwind (-1)).giveUp
  return { l.push .documentEnd with cursor := l.cursor.skip 3, allowKey := false }

/-- an opening bracket -/
def openBracket (l : Lexer) (t : Token) : Except Problem Lexer := do
  let l ← l.remember
  return { l.mark t with depth := l.depth + 1, allowKey := true }

/-- a closing bracket -/
def closeBracket (l : Lexer) (t : Token) : Except Problem Lexer := do
  let l ← l.giveUp
  if l.depth = 0 then throw .malformed
  return { l.mark t with depth := l.depth - 1, allowKey := false }

/-- a comma between brackets -/
def flowEntry (l : Lexer) : Except Problem Lexer := do
  return ({ (← l.giveUp) with allowKey := true }).mark .flowEntry

/-- a mark that opens an object or list by indentation, if it stands further to the right -/
def opening (l : Lexer) (start : Token) : Lexer :=
  match l.indentTo? l.column with
  | some l => l.push start
  | none => l

/-- the mark of an item -/
def blockEntry (l : Lexer) : Except Problem Lexer := do
  if l.depth = 0 ∧ !l.allowKey then throw .malformed
  let l := if l.depth = 0 then l.opening .blockSequenceStart else l
  return ({ (← l.giveUp) with allowKey := true }).mark .blockEntry

/-- the mark of a key -/
def explicitKey (l : Lexer) : Except Problem Lexer := do
  if l.depth = 0 ∧ !l.allowKey then throw .malformed
  let l := if l.depth = 0 then l.opening .blockMappingStart else l
  return ({ (← l.giveUp) with allowKey := l.depth = 0 }).mark .key

/-- the mark of a value; if a key may have started before it, that was a key -/
def valueMark (l : Lexer) : Except Problem Lexer := do
  match l.possible? with
  | some k =>
    let l := l.forget.insert k.position .key
    let l :=
      if l.depth = 0 then
        match l.indentTo? k.column with
        | some l => l.insert k.position .blockMappingStart
        | none => l
      else l
    return ({ l with allowKey := false }).mark .value
  | none =>
    if l.depth = 0 ∧ !l.allowKey then throw .malformed
    let l := if l.depth = 0 then l.opening .blockMappingStart else l
    return ({ (← l.giveUp) with allowKey := l.depth = 0 }).mark .value

/-- a scalar that was read -/
def scalar (l : Lexer) (isPlain : Bool) (s : Scanned) : Lexer :=
  { l.push (.scalar isPlain (String.ofList s.text)) with cursor := s.cursor, allowKey := s.broken }

/-- a character of the name of an anchor -/
def isNameChar (c : Char) : Bool := c.isAlphanum || c = '-' || c = '_'

/-- a character that may follow the name of an anchor -/
def endsName (c : Option Char) : Bool :=
  isGap c || (c.map fun c => "?:,]\x7d%@".toList.contains c || c.toNat = 96).getD false

/-- an anchor, or a reference to one -/
def anchor (l : Lexer) (token : String → Token) : Except Problem Lexer := do
  let l ← l.remember
  let (name, c) := l.cursor.advance.span isNameChar
  if name.isEmpty ∨ !endsName c.peek then throw .malformed
  return { l.push (token (String.ofList name)) with cursor := c, allowKey := false }

/-- a directive, which takes the whole line -/
def directive (l : Lexer) : Except Problem Lexer := do
  let l ← (l.unwind (-1)).giveUp
  let (name, c) := l.cursor.advance.span isNameChar
  if name.isEmpty ∨ !isGap c.peek then throw .malformed
  return { l.push .directive with cursor := c.skipLine, allowKey := false }

/-- a character that starts no plain scalar on its own -/
def isIndicator (c : Char) : Bool :=
  "-?:,[]\x7b\x7d#&*!|>'\"%@".toList.contains c || c.toNat = 96

/-- whether a plain scalar starts here -/
def startsPlain (l : Lexer) (x : Char) : Bool :=
  !(isIndicator x || isGap (some x)) ||
    (!isGap l.cursor.peekSecond && (x = '-' || (l.depth = 0 && (x = '?' || x = ':'))))

/-- the token that starts with a character -/
def tokenAt (l : Lexer) (x : Char) : Except Problem Lexer := do
  let gap := isGap l.cursor.peekSecond
  let flow := l.depth ≠ 0
  if l.cursor.column = 0 ∧ x = '%' then return ← l.directive
  if l.cursor.column = 0 ∧ l.cursor.seesMarker then
    if x = '.' then return ← l.endDocument else throw .malformed
  match x with
  | '[' => l.openBracket .flowSequenceStart
  | '\x7b' => l.openBracket .flowMappingStart
  | ']' => l.closeBracket .flowSequenceEnd
  | '\x7d' => l.closeBracket .flowMappingEnd
  | ',' => l.flowEntry
  | '&' => l.anchor .anchor
  | '*' => l.anchor fun _ => .alias
  | '!' => throw .malformed
  | '\'' | '"' => do
    let l ← l.remember
    return l.scalar false (← quoted (x = '"') l.cursor)
  | x =>
    if x = '-' ∧ gap then l.blockEntry
    else if x = '?' ∧ (flow ∨ gap) then l.explicitKey
    else if x = ':' ∧ (flow ∨ gap) then l.valueMark
    else if (x = '|' ∨ x = '>') ∧ !flow then do
      let l ← l.giveUp
      return l.scalar false (← block (x = '>') l.indent l.cursor)
    else if l.startsPlain x then do
      let l ← l.remember
      return l.scalar true (plain flow (l.indent + 1) l.cursor)
    else throw .malformed

/-- reads the next token, or a mark with those that it implies -/
def next (l : Lexer) : Except Problem Lexer := do
  let l ← l.toNext.dropStale
  let l := l.unwind l.column
  match l.cursor.peek with
  | none => l.finish
  | some x => l.tokenAt x

/-- the tokens that are known whatever follows: those in front of the first possible key -/
def known (l : Lexer) : List Token :=
  l.tokens.take (((l.keys.filter fun k => !l.isStale k.2).map (·.2.position)).foldl min l.tokens.length)

/-- reads tokens up to the end or to a problem -/
def readAll : Nat → Lexer → List Token
  | 0, l => l.tokens
  | fuel + 1, l =>
    match l.next with
    | .ok l => if l.ended then l.tokens else readAll fuel l
    | .error why => l.known ++ [.problem why]

end Lexer

/-- an anchor that was there before is a problem, once it is known what it stands in front of -/
def withoutRepeats (seen : List String) : List Token → List Token
  | .anchor name :: ts =>
    if seen.contains name then
      match ts with
      | .problem why :: _ => [.anchor name, .problem why]
      | _ => [.anchor name, .problem .malformed]
    else .anchor name :: withoutRepeats (name :: seen) ts
  | t :: ts => t :: withoutRepeats seen ts
  | [] => []

/-- how deep lists and objects may lie in each other -/
def maxDepth : Nat := 485

/-- tokens up to where lists and objects lie too deep in each other -/
def withinDepth (depth : Nat) : List Token → List Token
  | [] => []
  | t :: ts =>
    match t with
    | .blockSequenceStart | .blockMappingStart | .flowSequenceStart | .flowMappingStart =>
      if maxDepth ≤ depth then [.problem .excessive] else t :: withinDepth (depth + 1) ts
    | .blockEnd | .flowSequenceEnd | .flowMappingEnd => t :: withinDepth (depth - 1) ts
    | _ => t :: withinDepth depth ts

/-- the tokens of a text, in front of a problem if there is one -/
def tokens (cs : List Char) : List Token :=
  if cs.all isAllowed then
    withinDepth 0 (withoutRepeats [] (Lexer.readAll (cs.length + 2) { cursor := { rest := cs } }))
  else [.problem .malformed]

end Debate.Yaml
