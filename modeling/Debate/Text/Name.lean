import Debate.Text.Split

/-!
# Names

A name of a persona, a profile or a run becomes part of a path. It holds letters and digits of Basic
Latin, low lines and hyphens, at least one of them; a single line feed at its end is let through.

* `isName`         whether a text is a name;
* `badName`        the wording for one that is not.
-/

namespace Debate.Text

/-- the characters of names -/
def isNameLetter (c : Char) : Bool := c.isAlphanum || c == '_' || c == '-'

/-- a text without a line feed at its end -/
def dropFinalNewline (cs : List Char) : List Char :=
  if cs.getLast? = some '\n' then cs.dropLast else cs

/-- whether a text is a name -/
def isName (s : String) : Bool :=
  let cs := dropFinalNewline s.toList
  !cs.isEmpty && cs.all isNameLetter

/-- the wording for a text that is no name -/
def badName (kind name : String) : String :=
  "Invalid " ++ kind ++ " name '" ++ name ++
    "': must contain only alphanumeric, underscore, or hyphen"

example : isName "run-1_A" = true := by decide +kernel
example : isName "run\n" = true := by decide +kernel
example : isName "../run" = false := by decide +kernel
example : isName "\n" = false := by decide +kernel

end Debate.Text
