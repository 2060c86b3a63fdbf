import Debate.Shell.Setting

/-!
# Conditions

A condition is made of words: comparisons of texts and of integers, questions about files, and marks
that negate and connect them. A word that could be a mark is taken as a text where no mark can stand.

* `Condition.Kind`       what the words are that have a meaning of their own;
* `Condition.evaluate`   whether a condition holds, or what is wrong with it.
-/

namespace Debate.Shell.Condition

open Debate.Files

/-- the words that have a meaning of their own -/
inductive Kind where
  | unary
  | binary
  | not
  | both
  | either
  | opening
  | closing
  deriving DecidableEq, Repr

/-- the meaning of a word, if it has one of its own -/
def kind? (w : Octets) : Option Kind :=
  let s := String.ofList w
  if ["-r", "-w", "-x", "-e", "-f", "-d", "-c", "-b", "-p", "-u", "-g", "-k", "-s", "-t", "-z", "-n", "-h",
    "-L", "-O", "-G", "-S"].contains s then some .unary
  else if ["=", "!=", "<", ">", "-eq", "-ne", "-ge", "-gt", "-le", "-lt", "-nt", "-ot", "-ef"].contains s then
    some .binary
  else if s = "!" then some .not
  else if s = "-a" then some .both
  else if s = "-o" then some .either
  else if s = "(" then some .opening
  else if s = ")" then some .closing
  else none

/-- the words of a condition, and what is known about files -/
structure Subject where
  words : Array Octets
  machine : Machine
  here : Place
  numbers : Numbers

/-- the word at a place -/
def Subject.word? (s : Subject) (i : Nat) : Option Octets := s.words[i]?

/-- whether the word at a place is taken as a text although it could be a question -/
def Subject.isOperand (s : Subject) (i : Nat) : Bool :=
  match s.word? (i + 1) with
  | none => true
  | some w => (s.word? (i + 2)).isSome && kind? w = some .binary

/-- the meaning of the word at a place, if it has one there -/
def Subject.kindAt? (s : Subject) (i : Nat) : Option Kind :=
  match (s.word? i).bind kind? with
  | some .unary => if s.isOperand i then none else some .unary
  | some .opening => if (s.word? (i + 1)).isNone then none else some .opening
  | k => k

/-- what is wrong with a condition at a word -/
def wrong {α : Type} (w : Octets) (text : String) : Except Octets α :=
  .error (if w.isEmpty then text.toList else w ++ ": ".toList ++ text.toList)

/-- a word as an integer -/
def integer (w : Octets) : Except Octets Int :=
  match Octets.integer? w with
  | some n => .ok n
  | none => .error ("Illegal number: ".toList ++ w)

/-- an answer to a question about a text or a file -/
def Subject.ask (s : Subject) (question path : Octets) : Except Octets Bool :=
  let node := s.machine.stat s.here path
  let isThere := node.toOption.isSome || isDevice path ||
    ((deviceNumber? path).map fun n => (s.numbers.find? n).isSome).getD false
  match String.ofList question with
  | "-z" => .ok path.isEmpty
  | "-n" => .ok !path.isEmpty
  | "-e" | "-r" | "-w" | "-O" | "-G" => .ok isThere
  | "-f" => .ok (match node with
    | .ok (.file _) => true
    | _ => false)
  | "-d" => .ok (match node with
    | .ok (.directory _) => true
    | _ => false)
  | "-s" => .ok (match node with
    | .ok (.file bytes) => !bytes.isEmpty
    | .ok (.directory _) => true
    | .error _ => false)
  | "-x" => .ok (match node with
    | .ok (.directory _) => true
    | .ok (.file _) => (s.machine.locate s.here path).toOption.any s.machine.executables.contains
    | .error _ => false)
  | "-c" => .ok (isDevice path)
  | "-p" => .ok (((deviceNumber? path).bind s.numbers.find?).any fun c =>
      match s.machine.channel c with
      | .pipe _ => true
      | _ => false)
  | "-t" => (integer path).map fun _ => false
  | _ => .ok false

/-- a comparison of two words -/
def Subject.compare (s : Subject) (a op b : Octets) : Except Octets Bool :=
  let place (p : Octets) := (s.machine.locate s.here p).toOption.filter fun q => (s.machine.tree.get? q).isSome
  match String.ofList op with
  | "=" => .ok (a = b)
  | "!=" => .ok (a ≠ b)
  | "<" => .ok (Octets.before a b)
  | ">" => .ok (Octets.before b a)
  | "-ef" => .ok ((place a).isSome && place a = place b)
  | "-nt" => .ok ((place a).isSome && (place b).isNone)
  | "-ot" => .ok ((place b).isSome && (place a).isNone)
  | op => do
    let m ← integer a
    let n ← integer b
    return match op with
      | "-eq" => m = n
      | "-ne" => m ≠ n
      | "-lt" => m < n
      | "-le" => m ≤ n
      | "-gt" => m > n
      | _ => m ≥ n

mutual

/-- whether one of several conditions holds, and the last place of it -/
def disjunction (s : Subject) : Nat → Option Kind → Nat → Except Octets (Bool × Nat)
  | 0, _, i => .ok (false, i)
  | fuel + 1, k, i => do
    let (a, i) ← conjunction s fuel k i
    if s.kindAt? (i + 1) = some .either then
      let (b, i) ← disjunction s fuel (s.kindAt? (i + 2)) (i + 2)
      return (a || b, i)
    else return (a, i)

/-- whether all of several conditions hold, and the last place of them -/
def conjunction (s : Subject) : Nat → Option Kind → Nat → Except Octets (Bool × Nat)
  | 0, _, i => .ok (false, i)
  | fuel + 1, k, i => do
    let (a, i) ← negation s fuel k i
    if s.kindAt? (i + 1) = some .both then
      let (b, i) ← conjunction s fuel (s.kindAt? (i + 2)) (i + 2)
      return (a && b, i)
    else return (a, i)

/-- a condition that may be negated, and the last place of it -/
def negation (s : Subject) : Nat → Option Kind → Nat → Except Octets (Bool × Nat)
  | 0, _, i => .ok (false, i)
  | fuel + 1, k, i => do
    if k = some .not then
      let i' := if (s.word? (i + 1)).isSome then i + 1 else i
      let k' := if (s.word? (i + 1)).isSome then s.kindAt? (i + 1) else none
      if (s.word? (i + 1)).isNone then return (true, i)
      else
        let (a, i) ← negation s fuel k' i'
        return (!a, i)
    else primary s fuel k i

/-- a single condition, and the last place of it -/
def primary (s : Subject) : Nat → Option Kind → Nat → Except Octets (Bool × Nat)
  | 0, _, i => .ok (false, i)
  | fuel + 1, k, i => do
    match s.word? i with
    | none => return (false, i)
    | some w =>
      if k = some .opening then
        if s.kindAt? (i + 1) = some .closing then return (false, i + 1)
        else
          let (a, i) ← disjunction s fuel (s.kindAt? (i + 1)) (i + 1)
          if s.kindAt? (i + 1) = some .closing then return (a, i + 1)
          else wrong [] "closing paren expected"
      else if k = some .unary then
        match s.word? (i + 1) with
        | none => wrong w "argument expected"
        | some path => return (← s.ask w path, i + 1)
      else if s.kindAt? (i + 1) = some .binary then
        match s.word? (i + 1), s.word? (i + 2) with
        | some op, some b => return (← s.compare w op b, i + 2)
        | some op, none => wrong op "argument expected"
        | none, _ => return (false, i)
      else return (!w.isEmpty, i)

end

/-- whether words hold as a condition; the first of them may negate it, or all may stand in brackets -/
def evaluateWords (m : Machine) (here : Place) (numbers : Numbers) : Nat → List Octets → Except Octets Bool
  | 0, _ => .ok false
  | _, [] => .ok false
  | fuel + 1, words =>
    let whole (words : List Octets) (operand : Bool) : Except Octets Bool := do
      let s : Subject := { words := words.toArray, machine := m, here, numbers }
      let (a, i) ← disjunction s (4 * words.length + 8) (if operand then none else s.kindAt? 0) 0
      match s.word? (i + 1) with
      | some _ => wrong ((s.word? i).getD []) "unexpected operator"
      | none => return a
    match words with
    | [a, op, b] =>
      if kind? op = some .binary then whole words true
      else if a = ['('] ∧ b = [')'] then whole [op] false
      else if a = ['!'] then (evaluateWords m here numbers fuel [op, b]).map (!·)
      else whole words false
    | [a, b, c, d] =>
      if a = ['('] ∧ d = [')'] then whole [b, c] false
      else if a = ['!'] then (evaluateWords m here numbers fuel [b, c, d]).map (!·)
      else whole words false
    | words => whole words false

/-- whether the arguments of a condition hold, or what is wrong with them -/
def evaluate (m : Machine) (here : Place) (numbers : Numbers) (words : List Octets) : Except Octets Bool :=
  evaluateWords m here numbers (words.length + 1) words

/-- whether the arguments of a condition in square brackets hold -/
def evaluateBracketed (m : Machine) (here : Place) (numbers : Numbers) (words : List Octets) :
    Except Octets Bool :=
  if words.getLast? = some [']'] then evaluate m here numbers words.dropLast else .error "missing ]".toList

end Debate.Shell.Condition
