import Debate.Shell.Machine

/-!
# Scripts

A script is a sequence of statements. The words of a statement are made of parts, which are expanded
when the statement is executed.

* `Part`          a part of a word: a text, a parameter, the output of statements, or an expression;
* `Change`        what becomes of the value of a parameter;
* `Redirection`   what a number refers to while a statement is executed;
* `Statement`     the statements.
-/

namespace Debate.Shell

mutual

/-- a part of a word; what was quoted is not cut into several words -/
inductive Part where
  | plain (cs : Octets)
  | quoted (cs : Octets)
  | parameter (quoted : Bool) (name : Octets) (change : Change)
  | output (quoted : Bool) (body : List Statement)
  | arithmetic (quoted : Bool) (expression : List Part)

/-- what becomes of the value of a parameter; with a colon, an empty value counts as none -/
inductive Change where
  | asIs
  | length
  /-- a word instead of a value that is missing -/
  | orElse (colon : Bool) (word : List Part)
  /-- the same, and the parameter gets it as its value -/
  | orAssign (colon : Bool) (word : List Part)
  /-- a complaint if the value is missing -/
  | orFail (colon : Bool) (word : List Part)
  /-- a word instead of a value that is there -/
  | instead (colon : Bool) (word : List Part)
  /-- the value without a first part that fits a pattern, and without a last part -/
  | withoutFirst (longest : Bool) (pattern : List Part)
  | withoutLast (longest : Bool) (pattern : List Part)
  /-- a change that is not known -/
  | unknown

/-- what a number refers to while a statement is executed -/
inductive Redirection where
  | file (number : Nat) (how : Opening) (replacing : Bool) (path : List Part)
  /-- what another number refers to; nothing, for a hyphen -/
  | same (number : Nat) (other : List Part)
  /-- a text in the script -/
  | text (number : Nat) (document : List Part)

/-- a statement; the line that it stands on is named in complaints -/
inductive Statement where
  | command (line : Nat) (assignments : List (Octets × List Part)) (words : List (List Part))
      (redirections : List Redirection)
  | pipeline (stages : List Statement)
  | negation (s : Statement)
  | both (a b : Statement)
  | either (a b : Statement)
  /-- the next statement does not wait for this one -/
  | background (s : Statement)
  | subshell (line : Nat) (body : List Statement) (redirections : List Redirection)
  | group (body : List Statement) (redirections : List Redirection)
  | choice (test yes no : List Statement) (redirections : List Redirection)
  /-- a body that is repeated as long as a test succeeds, or until it does -/
  | loop (untilSuccess : Bool) (test body : List Statement) (redirections : List Redirection)
  | each (line : Nat) (name : Octets) (words : List (List Part)) (body : List Statement)
      (redirections : List Redirection)
  | cases (line : Nat) (word : List Part) (arms : List (List (List Part) × List Statement))
      (redirections : List Redirection)
  | function (line : Nat) (name : Octets) (body : Statement)

end

instance : Inhabited Part := ⟨.plain []⟩
instance : Inhabited Change := ⟨.asIs⟩
instance : Inhabited Statement := ⟨.group [] []⟩

/-- a word -/
abbrev Word := List Part

namespace Octets

/-- a letter or a low line -/
def isNameStart (c : Char) : Bool := c.isAlpha || c = '_'

/-- a letter, a digit or a low line -/
def isNameChar (c : Char) : Bool := c.isAlphanum || c = '_'

/-- whether a text can be the name of a variable -/
def isName (cs : Octets) : Bool := (cs.head?.map isNameStart).getD false && cs.all isNameChar

/-- a name, an equals sign, and what follows it -/
def assignment? (cs : Octets) : Option (Octets × Octets) :=
  let name := cs.takeWhile isNameChar
  match cs.drop name.length with
  | '=' :: rest => if isName name then some (name, rest) else none
  | _ => none

end Octets

end Debate.Shell
