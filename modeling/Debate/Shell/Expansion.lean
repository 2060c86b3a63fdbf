import Debate.Shell.Arithmetic
import Debate.Shell.Glob
import Debate.Shell.Scope

/-!
# Expansion of words

The parts of a word are expanded to characters. What was not quoted is cut into words where a separator
stands that comes from an expansion; after that, patterns stand for the paths that fit them. Blanks
around a separator that is no blank belong to it.

* `Item`                  what a part is expanded to;
* `fields`                what was expanded, cut into words;
* `Expander.words`        the words that words are expanded to;
* `Expander.text`         the text of a word that is not cut;
* `Expander.pattern`      the text of a word with its marks of patterns.
-/

namespace Debate.Shell

open Debate.Files

/-- where a character comes from: a script, quotes, or an expansion -/
inductive Origin where
  | script
  | quotes
  | value
  deriving DecidableEq, Repr

/-- what a part is expanded to -/
inductive Item where
  | char (c : Char) (o : Origin)
  /-- the end of one argument of several -/
  | next
  /-- something that is a word even if it is empty -/
  | present
  deriving DecidableEq, Repr

/-! ## cutting -/

/-- how far a text was cut -/
structure Cutting where
  /-- the words that are complete, the last first -/
  done : List Marked := []
  /-- the word at hand, the last character first -/
  current : Option Marked := none
  /-- a blank ended the last word, and a separator that follows belongs to it -/
  open_ : Bool := false

namespace Cutting

/-- the word at hand is complete -/
def close (c : Cutting) : Cutting :=
  match c.current with
  | some w => { c with done := w.reverse :: c.done, current := none }
  | none => c

/-- one more character -/
def add (c : Cutting) (x : Char) (active : Bool) : Cutting :=
  { c with current := some ((x, active) :: c.current.getD []), open_ := false }

/-- a separator -/
def cut (c : Cutting) (x : Char) : Cutting :=
  if Octets.isSpace x then
    match c.current with
    | some _ => { c.close with open_ := true }
    | none => c
  else
    match c.current with
    | some _ => { c.close with open_ := false }
    | none => if c.open_ then { c with open_ := false } else { c with done := [] :: c.done }

/-- one more item -/
def item (separators : Octets) (c : Cutting) : Item → Cutting
  | .char x o =>
    if o = .value ∧ separators.contains x then c.cut x else c.add x (o ≠ .quotes)
  | .next => { c.close with open_ := false }
  | .present => { c with current := some (c.current.getD []), open_ := false }

end Cutting

/-- what was expanded, cut into words -/
def fields (separators : Octets) (items : List Item) : List Marked :=
  (items.foldl (Cutting.item separators) {}).close.done.reverse

/-- what was expanded as one text, with its marks of patterns -/
def marked (items : List Item) : Marked := items.flatMap fun i =>
  match i with
  | .char c o => [(c, o ≠ .quotes)]
  | .next => [(' ', false)]
  | .present => []

/-- what was expanded as one text -/
def textOf (items : List Item) : Octets := (marked items).map (·.1)

/-- a text as items -/
def itemsOf (quoted : Bool) (cs : Octets) : List Item :=
  if quoted then .present :: cs.map (.char · .quotes) else cs.map (.char · .value)

/-- what stands in a word that comes from an expansion -/
def asValue (items : List Item) : List Item := items.map fun i =>
  match i with
  | .char c .script => .char c .value
  | i => i

/-! ## tildes -/

/-- the home of a user, if it is known -/
def homeOf? (s : Scope) (user : Octets) : Option Octets :=
  match String.ofList user with
  | "" => s.lookup? "HOME".toList
  | "root" => some "/root".toList
  | _ => none

/-- the text at the start of a word with the home of a user in place of a tilde; in an assignment also
after each colon -/
def withHome (s : Scope) (assigned last : Bool) (cs : Octets) : List Item :=
  let plain (cs : Octets) : List Item := cs.map (.char · .script)
  let one (last : Bool) (cs : Octets) : List Item :=
    match cs with
    | '~' :: rest =>
      let user := rest.takeWhile (· ≠ '/')
      let tail := rest.drop user.length
      if tail.isEmpty ∧ !last then plain cs
      else
        match homeOf? s user with
        | some home => home.map (.char · .quotes) ++ plain tail
        | none => plain cs
    | cs => plain cs
  if assigned then
    let pieces := Text.split [':'] cs
    let homes := pieces.mapIdx fun i p => one (last || i + 1 < pieces.length) p
    [Item.char ':' .script].intercalate homes
  else one last cs

/-! ## expansion -/

/-- how the output of statements is got -/
structure Expander where
  output : List Statement → Sh Octets

namespace Expander

/-- the arguments of the shell as items -/
def argumentItems (s : Scope) (quoted : Bool) (name : Octets) : List Item :=
  if quoted ∧ name = ['*'] then
    let between := match s.value? "IFS".toList with
      | some v => (v.value.getD [' ']).take 1
      | none => [' ']
    itemsOf true (between.intercalate s.arguments)
  else [Item.next].intercalate (s.arguments.map (itemsOf quoted))

/-- the value of a parameter as items -/
def valueItems (s : Scope) (quoted : Bool) (name value : Octets) : List Item :=
  if name = ['@'] ∨ name = ['*'] then argumentItems s quoted name else itemsOf quoted value

/-- a parameter without a value that must have one -/
def demand (s : Scope) (name : Octets) (v : Option Octets) : Sh Unit := do
  if v.isNone ∧ s.options.noUnset ∧ name ≠ ['@'] ∧ name ≠ ['*'] then
    failure (name ++ ": parameter not set".toList)

mutual

/-- the items of a part -/
def part (e : Expander) : Nat → Part → Sh (List Item)
  | 0, _ => return []
  | _, .plain cs => return cs.map (.char · .script)
  | _, .quoted cs => return itemsOf true cs
  | _, .output quoted body => do
    let cs ← e.output body
    return itemsOf quoted ((Octets.chompAll cs).filter (· ≠ '\x00'))
  | fuel + 1, .arithmetic quoted w => do
    let expression := textOf (← parts e fuel w)
    let s ← Sh.scope
    match Arithmetic.evaluate (fun n => (s.lookup? n).getD []) expression with
    | .ok (n, assigned) => do
      for (name, value) in assigned do
        assign name (Octets.ofInt value)
      return itemsOf quoted (Octets.ofInt n)
    | .error (.expression text) =>
      failure ("arithmetic expression: ".toList ++ text.toList ++ ": \"".toList ++ expression ++ ['"'])
    | .error (.value cs) => failure ("Illegal number: ".toList ++ cs)
  | fuel + 1, .parameter quoted name change => do
    let s ← Sh.scope
    let v := s.lookup? name
    let missing (colon : Bool) : Bool := v.isNone || (colon && v = some [])
    let value : List Item := valueItems s quoted name (v.getD [])
    let word (w : Word) : Sh (List Item) := do
      let items ← tilded e fuel false w
      return if quoted then items else asValue items
    match change with
    | .asIs => do
      demand s name v
      return value
    | .length => do
      demand s name v
      return itemsOf quoted (Octets.ofNat (v.getD []).length)
    | .orElse colon w => if missing colon then word w else return value
    | .orAssign colon w =>
      if missing colon then
        let cs := textOf (← tilded e fuel false w)
        if Octets.isName name then
          assign name cs
          return itemsOf quoted cs
        else failure (name ++ ": bad variable name".toList)
      else return value
    | .orFail colon w =>
      if missing colon then
        let cs := textOf (← tilded e fuel false w)
        let text := if w.isEmpty then ("parameter not set" ++ if colon then " or null" else "").toList else cs
        failure (name ++ ": ".toList ++ text)
      else return value
    | .instead colon w => if missing colon then return [] else word w
    | .withoutFirst longest w => do
      demand s name v
      let g := Glob.read (marked (← tilded e fuel false w))
      return itemsOf quoted (g.removeFirst longest (v.getD []))
    | .withoutLast longest w => do
      demand s name v
      let g := Glob.read (marked (← tilded e fuel false w))
      return itemsOf quoted (g.removeLast longest (v.getD []))
    | .unknown => do
      complain "Bad substitution".toList
      setStatus 2
      throw .mistake

/-- the items of parts -/
def parts (e : Expander) : Nat → Word → Sh (List Item)
  | 0, _ => return []
  | _, [] => return []
  | fuel + 1, p :: ps => do
    let first ← part e fuel p
    return first ++ (← parts e fuel ps)

/-- the items of a word that may start with a tilde -/
def tilded (e : Expander) : Nat → Bool → Word → Sh (List Item)
  | 0, _, _ => return []
  | fuel + 1, assigned, w => do
    match w with
    | .plain cs :: ps =>
      let first := withHome (← Sh.scope) assigned ps.isEmpty cs
      return first ++ (← parts e fuel ps)
    | w => parts e fuel w

end

/-- how deep the parts of words may lie in each other -/
def maxDepth : Nat := 100000

/-- the text of a word that is not cut -/
def text (e : Expander) (w : Word) : Sh Octets := return textOf (← tilded e maxDepth false w)

/-- the value of an assignment -/
def assigned (e : Expander) (w : Word) : Sh Octets := return textOf (← tilded e maxDepth true w)

/-- the text of a word with its marks of patterns -/
def pattern (e : Expander) (w : Word) : Sh Marked := return marked (← tilded e maxDepth false w)

/-- the words that a word is expanded to -/
def word (e : Expander) (w : Word) : Sh (List Octets) := do
  let items ← tilded e maxDepth false w
  let s ← Sh.scope
  let ms := fields s.separators items
  if s.options.noGlob then return ms.map fun m => m.map (·.1)
  else
    let m ← Sh.machine
    return ms.flatMap (Glob.paths m s.here)

/-- the words that words are expanded to -/
def words (e : Expander) : List Word → Sh (List Octets)
  | [] => return []
  | w :: ws => do
    let first ← e.word w
    return first ++ (← words e ws)

end Expander

end Debate.Shell
