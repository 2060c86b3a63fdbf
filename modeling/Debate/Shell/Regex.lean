import Debate.Shell.Octets
import Debate.Text.Word

/-!
# Regular expressions

A regular expression is matched at the leftmost place where it fits, and as far as it can reach; parts
further to the left reach as far as they can in that. What is found at a place is the set of ends that
can be reached, the furthest first, each with what the groups hold then.

* `Regex.Member`     what may stand between square brackets;
* `Regex`            the expressions;
* `Regex.ends`       the ends that can be reached from a place;
* `Regex.search?`    the leftmost match at or after a place;
* `Found`            a match: where it starts and ends, and where its groups do.
-/

namespace Debate.Shell

/-- the named classes of characters -/
inductive CharacterClass where
  | alpha | digit | alnum | upper | lower | space | blank | punct | print | graph | cntrl | xdigit
  /-- what names are made of -/
  | word
  deriving DecidableEq, Repr

namespace CharacterClass

/-- the class of a name -/
def ofName? (name : List Char) : Option CharacterClass :=
  match String.ofList name with
  | "alpha" => some .alpha
  | "digit" => some .digit
  | "alnum" => some .alnum
  | "upper" => some .upper
  | "lower" => some .lower
  | "space" => some .space
  | "blank" => some .blank
  | "punct" => some .punct
  | "print" => some .print
  | "graph" => some .graph
  | "cntrl" => some .cntrl
  | "xdigit" => some .xdigit
  | _ => none

/-- a letter or digit; outside of ASCII those of all writing systems -/
def isLetterOrDigit (c : Char) : Bool :=
  if c.toNat < 128 then c.isAlphanum else Text.isWordChar c

/-- a character that stands for ink -/
def isInk (c : Char) : Bool := ('!' ≤ c && c ≤ '~') || (0xA0 ≤ c.toNat && c.toNat < Octets.strayBase)

/-- whether a character belongs to a class -/
def holds : CharacterClass → Char → Bool
  | .alpha, c => isLetterOrDigit c && !c.isDigit
  | .digit, c => c.isDigit
  | .alnum, c => isLetterOrDigit c
  | .upper, c => c.isUpper
  | .lower, c => c.isLower
  | .space, c => c = ' ' || ('\t' ≤ c && c ≤ '\r')
  | .blank, c => c = ' ' || c = '\t'
  | .punct, c => isInk c && !isLetterOrDigit c
  | .print, c => c = ' ' || isInk c
  | .graph, c => isInk c
  | .cntrl, c => c < ' ' || c.toNat = 127
  | .xdigit, c => c.isDigit || ('a' ≤ c && c ≤ 'f') || ('A' ≤ c && c ≤ 'F')
  | .word, c => c = '_' || isLetterOrDigit c

end CharacterClass

/-- a regular expression -/
inductive Regex where
  /-- nothing at all -/
  | empty
  | char (c : Char)
  /-- any character; a line feed only if it is told so, and no stray byte -/
  | any (lineFeed : Bool)
  /-- a character between square brackets, or one that is not -/
  | set (negated : Bool) (ranges : List (Char × Char)) (classes : List CharacterClass)
  /-- the start and the end of a line -/
  | lineStart
  | lineEnd
  /-- the start and the end of the text -/
  | textStart
  | textEnd
  /-- the start, the end, and either edge of a word, and what is no edge -/
  | wordStart
  | wordEnd
  | wordEdge
  | noWordEdge
  | seq (a b : Regex)
  | either (a b : Regex)
  /-- again and again, at least and at most so many times -/
  | repeated (r : Regex) (least : Nat) (most : Option Nat)
  | group (number : Nat) (r : Regex)
  /-- what a group holds -/
  | backReference (number : Nat)
  deriving Repr, Inhabited

/-- what the groups hold: the number of each, its start and its end; the last one counts first -/
abbrev Groups := List (Nat × Nat × Nat)

/-- a match -/
structure Found where
  start : Nat
  stop : Nat
  groups : Groups := []
  deriving DecidableEq, Repr

/-- where a group starts and ends; the group 0 is the whole match -/
def Found.group? (f : Found) (n : Nat) : Option (Nat × Nat) :=
  if n = 0 then some (f.start, f.stop) else (f.groups.find? fun g => g.1 = n).map (·.2)

namespace Regex

/-- how expressions are compared with a text -/
structure Manner where
  ignoreCase : Bool := false
  /-- lines start and end inside of the text too -/
  manyLines : Bool := false
  deriving DecidableEq, Repr

/-- a text, and how it is searched -/
structure Subject where
  text : Array Char
  manner : Manner := {}

/-- whether a character is meant by another one -/
def Subject.agrees (s : Subject) (a b : Char) : Bool :=
  a = b || (s.manner.ignoreCase && a.toLower = b.toLower)

/-- whether a character stands between square brackets -/
def inSet (ranges : List (Char × Char)) (classes : List CharacterClass) (c : Char) : Bool :=
  ranges.any (fun r => r.1 ≤ c && c ≤ r.2) || classes.any (·.holds c)

/-- whether a character stands between square brackets, perhaps in its other case -/
def Subject.inSet (s : Subject) (ranges : List (Char × Char)) (classes : List CharacterClass)
    (c : Char) : Bool :=
  Regex.inSet ranges classes c ||
    (s.manner.ignoreCase && (Regex.inSet ranges classes c.toLower || Regex.inSet ranges classes c.toUpper))

/-- whether a word goes on before a place, and after it -/
def Subject.wordAt (s : Subject) (i : Nat) : Bool := (s.text[i]?.map CharacterClass.word.holds).getD false

/-- whether a word goes on in front of a place -/
def Subject.wordBefore (s : Subject) (i : Nat) : Bool := i ≠ 0 && s.wordAt (i - 1)

/-- whether a line starts at a place -/
def Subject.startsLine (s : Subject) (i : Nat) : Bool :=
  i = 0 || (s.manner.manyLines && s.text[i - 1]? = some '\n')

/-- whether a line ends at a place -/
def Subject.endsLine (s : Subject) (i : Nat) : Bool :=
  i = s.text.size || (s.manner.manyLines && s.text[i]? = some '\n')

/-- an end that was reached, and what the groups hold there -/
abbrev Reached := Nat × Groups

/-- an end is put to those that lie further or at the same place -/
def insertEnd (e : Reached) : List Reached → List Reached
  | [] => [e]
  | x :: xs => if x.1 < e.1 then e :: x :: xs else x :: insertEnd e xs

/-- each end once, the furthest first; the same end twice only if the groups are needed later on -/
def distinct (needed : Bool) (es : List Reached) : List Reached :=
  es.foldl (fun all e =>
    if all.any fun x => x.1 = e.1 ∧ (!needed ∨ x.2 = e.2) then all else insertEnd e all) []

/-- ends that are reached by going on, up to so many times -/
def onward (needed : Bool) (step : Reached → List Reached) : Nat → List Reached → List Reached → List Reached
  | 0, _, all => all
  | n + 1, last, all =>
    let next := distinct needed (last.flatMap step)
    let new := next.filter fun e => !(all.any fun x => x.1 = e.1 ∧ (!needed ∨ x.2 = e.2))
    if new.isEmpty then all else onward needed step n new (distinct needed (all ++ new))

/-- ends that are reached by exactly so many steps -/
def exactly (needed : Bool) (step : Reached → List Reached) : Nat → List Reached → List Reached
  | 0, es => es
  | n + 1, es => exactly needed step n (distinct needed (es.flatMap step))

/-- an end that is reached if a condition holds -/
def only (b : Bool) (e : Reached) : List Reached := if b then [e] else []

/-- whether a character matches an expression that stands for single characters; nothing for others -/
def single? (s : Subject) : Regex → Option (Char → Bool)
  | .char c => some (s.agrees c)
  | .any lineFeed => some fun x => (lineFeed || x ≠ '\n') && x.toNat < Octets.strayBase
  | .set negated ranges classes => some fun x => s.inSet ranges classes x != negated
  | _ => none

/-- how many characters from a place on match a test, at most so many -/
def Subject.run (s : Subject) (test : Char → Bool) : Nat → Nat → Nat
  | 0, _ => 0
  | n + 1, i => if (s.text[i]?.map test).getD false then s.run test n (i + 1) + 1 else 0

/-- the ends that can be reached from a place, the furthest first -/
def ends (s : Subject) (needed : Bool) : Regex → Reached → List Reached
  | .empty, e => [e]
  | .char c, e => only ((s.text[e.1]?.map (s.agrees c)).getD false) (e.1 + 1, e.2)
  | .any lineFeed, e =>
    only ((s.text[e.1]?.map fun x => (lineFeed || x ≠ '\n') && x.toNat < Octets.strayBase).getD false)
      (e.1 + 1, e.2)
  | .set negated ranges classes, e =>
    only ((s.text[e.1]?.map fun x => s.inSet ranges classes x != negated).getD false) (e.1 + 1, e.2)
  | .lineStart, e => only (s.startsLine e.1) e
  | .lineEnd, e => only (s.endsLine e.1) e
  | .textStart, e => only (e.1 = 0) e
  | .textEnd, e => only (e.1 = s.text.size) e
  | .wordStart, e => only (!s.wordBefore e.1 && s.wordAt e.1) e
  | .wordEnd, e => only (s.wordBefore e.1 && !s.wordAt e.1) e
  | .wordEdge, e => only (s.wordBefore e.1 != s.wordAt e.1) e
  | .noWordEdge, e => only (s.wordBefore e.1 == s.wordAt e.1) e
  | .seq a b, e => distinct needed ((ends s needed a e).flatMap fun x => ends s needed b x)
  | .either a b, e => distinct needed (ends s needed a e ++ ends s needed b e)
  | .repeated r least most, e =>
    match r.single? s with
    | some test =>
      let n := s.run test (most.getD (s.text.size - e.1)) e.1
      if n < least then [] else (List.range (n + 1 - least)).map fun k => (e.1 + n - k, e.2)
    | none =>
      let step := fun x => ends s needed r x
      let first := exactly needed step least [e]
      let more := match most with
        | some m => m - least
        | none => s.text.size + 1
      onward needed step more first first
  | .group n r, e => (ends s needed r e).map fun x => (x.1, (n, e.1, x.1) :: x.2.filter fun g => g.1 ≠ n)
  | .backReference n, e =>
    match e.2.find? fun g => g.1 = n with
    | some (_, a, b) =>
      only ((List.range (b - a)).all fun k =>
        match s.text[a + k]?, s.text[e.1 + k]? with
        | some x, some y => s.agrees x y
        | _, _ => false) (e.1 + (b - a), e.2)
    | none => []

/-- whether an expression refers to what its groups hold -/
def refersBack : Regex → Bool
  | .backReference _ => true
  | .seq a b | .either a b => a.refersBack || b.refersBack
  | .repeated r _ _ | .group _ r => r.refersBack
  | _ => false

/-- how many groups there are -/
def groupCount : Regex → Nat
  | .seq a b | .either a b => a.groupCount + b.groupCount
  | .repeated r _ _ => r.groupCount
  | .group _ r => r.groupCount + 1
  | _ => 0

/-- the furthest match that starts at a place -/
def matchAt? (r : Regex) (s : Subject) (i : Nat) : Option Found :=
  (ends s r.refersBack r (i, [])).head?.map fun e => { start := i, stop := e.1, groups := e.2 }

/-- the leftmost match that starts at one of so many places -/
def searchFrom (r : Regex) (s : Subject) : Nat → Nat → Option Found
  | 0, _ => none
  | n + 1, i => (r.matchAt? s i).or (searchFrom r s n (i + 1))

/-- the leftmost match at or after a place -/
def search? (r : Regex) (s : Subject) (i : Nat) : Option Found :=
  searchFrom r s (s.text.size + 1 - i) i

/-- whether an expression matches somewhere in a text -/
def matches? (r : Regex) (manner : Manner) (text : List Char) : Bool :=
  (r.search? { text := text.toArray, manner } 0).isSome

/-- the expression that takes any of several -/
def eitherOf : List Regex → Regex
  | [] => .set false [] []
  | [r] => r
  | r :: rs => .either r (eitherOf rs)

/-- the expression for a text that is taken as it is -/
def literal : List Char → Regex
  | [] => .empty
  | [c] => .char c
  | c :: cs => .seq (.char c) (literal cs)

/-- another numbering of the groups -/
def shift (by_ : Nat) : Regex → Regex
  | .seq a b => .seq (a.shift by_) (b.shift by_)
  | .either a b => .either (a.shift by_) (b.shift by_)
  | .repeated r l m => .repeated (r.shift by_) l m
  | .group n r => .group (n + by_) (r.shift by_)
  | .backReference n => .backReference (n + by_)
  | r => r

example : ((Regex.seq (.repeated (.char 'a') 0 none) (.char 'b')).search? { text := "xaab".toList.toArray } 0).map
    (fun f => (f.start, f.stop)) = some (1, 4) := by decide +kernel

end Regex

end Debate.Shell
