/-!
# Places and tokens in a YAML text

A cursor is a place in a text: what follows it, and the line and column where it stands. Besides the
line feed there are other line breaks; two of them keep their own character when lines are joined. From
place to place the text is made of tokens.

* `isBreak`, `isGap`      the characters that end a line, and those that end a word;
* `Cursor`                a place in a text;
* `Cursor.advance`        the place after the next character;
* `Cursor.span`           the characters with a property, and the place after them;
* `Cursor.takeBreak`      a line break, and the place after it;
* `Problem`               why a text cannot be read;
* `Token`                 what a text is made of: marks, and scalars with their text.
-/

namespace Debate.Yaml

/-- a character that ends a line -/
def isBreak (c : Char) : Bool :=
  c = '\n' || c = '\r' || c = '\x85' || c = '\u2028' || c = '\u2029'

/-- a line break or the end of the text -/
def isBreakOrEnd : Option Char → Bool
  | none => true
  | some c => isBreak c

/-- a blank, a line break or the end of the text -/
def isGap : Option Char → Bool
  | none => true
  | some c => c = ' ' || c = '\t' || isBreak c

/-- a character that may stand in a text -/
def isAllowed (c : Char) : Bool :=
  let n := c.toNat
  n = 9 || n = 10 || n = 13 || n = 0x85 || (0x20 ≤ n && n ≤ 0x7E) || (0xA0 ≤ n && n ≤ 0xD7FF) ||
    (0xE000 ≤ n && n ≤ 0xFFFD) || 0x10000 ≤ n

/-- a place in a text -/
structure Cursor where
  rest : List Char
  index : Nat := 0
  line : Nat := 0
  column : Nat := 0
  deriving Repr

namespace Cursor

/-- the next character -/
def peek (c : Cursor) : Option Char := c.rest.head?

/-- the character after the next -/
def peekSecond (c : Cursor) : Option Char := c.rest.tail.head?

/-- whether the next character is the one given -/
def sees (c : Cursor) (x : Char) : Bool := c.peek = some x

/-- whether the next character has a property; there is none at the end -/
def «at» (c : Cursor) (p : Char → Bool) : Bool := (c.peek.map p).getD false

/-- the place after the next character -/
def advance (c : Cursor) : Cursor :=
  match c.rest with
  | [] => c
  | x :: rest =>
    if isBreak x ∧ !(x = '\r' ∧ rest.head? = some '\n') then
      { rest, index := c.index + 1, line := c.line + 1, column := 0 }
    else { rest, index := c.index + 1, line := c.line, column := c.column + (if x = '\ufeff' then 0 else 1) }

/-- the place after a number of characters -/
def skip (c : Cursor) (n : Nat) : Cursor := (List.range n).foldl (fun c _ => c.advance) c

/-- the characters with a property, and the place after them -/
def span (c : Cursor) (p : Char → Bool) : List Char × Cursor :=
  let cs := c.rest.takeWhile p
  (cs, c.skip cs.length)

/-- the place after the characters with a property -/
def skipWhile (c : Cursor) (p : Char → Bool) : Cursor := (c.span p).2

/-- the place after the blanks -/
def skipSpaces (c : Cursor) : Cursor := c.skipWhile (· = ' ')

/-- the place at the end of the line -/
def skipLine (c : Cursor) : Cursor := c.skipWhile fun x => !isBreak x

/-- a line break, and the place after it -/
def takeBreak (c : Cursor) : Option (Char × Cursor) :=
  match c.rest with
  | '\r' :: '\n' :: _ => some ('\n', c.skip 2)
  | x :: _ =>
    if x = '\u2028' ∨ x = '\u2029' then some (x, c.advance)
    else if isBreak x then some ('\n', c.advance)
    else none
  | [] => none

/-- whether a marker of three characters stands here, with a gap after it -/
def seesMarker (c : Cursor) : Bool :=
  match c.rest with
  | '-' :: '-' :: '-' :: rest => isGap rest.head?
  | '.' :: '.' :: '.' :: rest => isGap rest.head?
  | _ => false

end Cursor

/-! ## tokens -/

/-- why a text cannot be read -/
inductive Problem where
  | malformed
  /-- a scalar that looks like a number but is none -/
  | badNumber (message : String)
  /-- the number of a character that is out of all bounds, or brackets that lie too deep -/
  | excessive
  deriving DecidableEq, Repr

/-- what a text is made of -/
inductive Token where
  | streamEnd
  | documentEnd
  /-- the start of a list by indentation, and of an object by indentation -/
  | blockSequenceStart
  | blockMappingStart
  /-- the end of what started by indentation -/
  | blockEnd
  | blockEntry
  | key
  | value
  | flowSequenceStart
  | flowSequenceEnd
  | flowMappingStart
  | flowMappingEnd
  | flowEntry
  | anchor (name : String)
  /-- a reference to an anchor -/
  | alias
  | directive
  /-- a scalar, and whether it stands without quotes -/
  | scalar (plain : Bool) (text : String)
  /-- from here on the text cannot be read -/
  | problem (why : Problem)
  deriving DecidableEq, Repr

end Debate.Yaml
