import Debate.Number.Power
import Debate.Shell.Octets

/-!
# Arithmetic

Expressions over integers of 64 bits, which wrap around. Numbers are decimal, octal after a zero, or to
the base sixteen after `0x`; a name stands for the value of its variable and can be assigned to. What
does not count for the result is read, but not computed.

* `Arithmetic.wrap`       an integer of 64 bits;
* `Arithmetic.number`     the number that a text starts with, and what follows it;
* `Arithmetic.evaluate`   the value of an expression and its assignments, or what is wrong with it.
-/

namespace Debate.Shell.Arithmetic

open Debate.Number.Power

/-! ## numbers -/

/-- an integer of 64 bits -/
def wrap (n : Int) : Int := Int.bmod n (2 ^ (64 : Nat))

/-- an integer of 64 bits; one that is too large is replaced by the largest -/
def clamp (n : Int) : Int := max (-(2 ^ (63 : Nat))) (min (2 ^ (63 : Nat) - 1) n)

/-- a digit to the base sixteen -/
def hexDigit? (c : Char) : Option Nat :=
  if c.isDigit then some (c.toNat - 48)
  else if 'a' ≤ c ∧ c ≤ 'f' then some (c.toNat - 87)
  else if 'A' ≤ c ∧ c ≤ 'F' then some (c.toNat - 55)
  else none

/-- the number that digits below a base write, and what follows them -/
def digits (base : Nat) (n : Nat) : Octets → Nat × Octets
  | [] => (n, [])
  | c :: cs =>
    match hexDigit? c with
    | some d => if d < base then digits base (base * n + d) cs else (n, c :: cs)
    | none => (n, c :: cs)

/-- the number that a text starts with, and what follows it -/
def number (cs : Octets) : Nat × Octets :=
  match cs with
  | '0' :: x :: d :: rest =>
    if (x = 'x' ∨ x = 'X') ∧ (hexDigit? d).isSome then digits 16 0 (d :: rest) else digits 8 0 cs
  | '0' :: _ => digits 8 0 cs
  | cs => digits 10 0 cs

/-- the integer that a whole text writes, with blanks around it -/
def integer? (cs : Octets) : Option Int :=
  let cs := cs.dropWhile Octets.isSpace
  let (negative, ds) := match cs with
    | '-' :: ds => (true, ds)
    | '+' :: ds => (false, ds)
    | ds => (false, ds)
  if (ds.head?.map Char.isDigit).getD false then
    let (n, rest) := number ds
    if rest.all Octets.isSpace then some (clamp (if negative then -(n : Int) else n)) else none
  else none

/-! ## lexemes -/

/-- what an expression is made of -/
inductive Lexeme where
  | number (n : Int)
  | name (cs : Octets)
  | mark (s : String)
  | other
  deriving DecidableEq, Repr

/-- the marks, longer ones first -/
def marks : List String :=
  ["<<=", ">>=", "<<", ">>", "<=", ">=", "==", "!=", "&&", "||", "+=", "-=", "*=", "/=", "%=", "&=", "|=",
    "^=", "<", ">", "=", "!", "~", "+", "-", "*", "/", "%", "&", "|", "^", "(", ")", "?", ":"]

/-- the mark that a text starts with -/
def mark? (cs : Octets) : Option String := marks.find? fun m => m.toList.isPrefixOf cs

/-- the lexemes of an expression -/
def lexemes : Nat → Octets → List Lexeme
  | 0, _ => []
  | _, [] => []
  | fuel + 1, c :: cs =>
    if c = ' ' ∨ c = '\t' ∨ c = '\n' then lexemes fuel cs
    else if c.isDigit then
      let (n, rest) := number (c :: cs)
      .number (clamp n) :: lexemes fuel rest
    else if c.isAlpha ∨ c = '_' then
      let name := (c :: cs).takeWhile fun c => c.isAlphanum || c = '_'
      .name name :: lexemes fuel ((c :: cs).drop name.length)
    else
      match mark? (c :: cs) with
      | some m => .mark m :: lexemes fuel ((c :: cs).drop m.length)
      | none => .other :: lexemes fuel cs

/-! ## evaluation -/

/-- why an expression has no value -/
inductive Failure where
  /-- something about the expression -/
  | expression (text : String)
  /-- the value of a variable is no number -/
  | value (cs : Octets)
  deriving DecidableEq, Repr

/-- what is left of an expression, and what was assigned in it, the last first -/
structure Progress where
  rest : List Lexeme
  assigned : List (Octets × Int) := []

/-- a step of evaluation -/
abbrev Evaluating (α : Type) := StateT Progress (Except Failure) α

/-- the next lexeme is taken -/
def take : Evaluating (Option Lexeme) := modifyGet fun p => (p.rest.head?, { p with rest := p.rest.tail })

/-- the next lexeme is taken if it is one of some marks -/
def takeMark (ms : List String) : Evaluating (Option String) := do
  match (← get).rest with
  | .mark m :: rest =>
    if ms.contains m then
      modify fun p => { p with rest }
      return some m
    else return none
  | _ => return none

/-- the value of a variable -/
def valueOf (lookup : Octets → Octets) (name : Octets) : Evaluating Int := do
  match (← get).assigned.find? fun a => a.1 = name with
  | some (_, n) => return n
  | none =>
    let cs := lookup name
    if cs.all Octets.isSpace then return 0
    else
      match integer? cs with
      | some n => return n
      | none => throw (.value cs)

/-- a truth value as a number -/
def truth (b : Bool) : Int := if b then 1 else 0

/-- an operation on the bits of two integers -/
def bitwise (f : Nat → Nat → Nat) (a b : Int) : Int :=
  wrap (f (a % 2 ^ (64 : Nat)).toNat (b % 2 ^ (64 : Nat)).toNat)

/-- an operation of two integers -/
def operate (m : String) (a b : Int) : Except Failure Int :=
  match m with
  | "|" => .ok (bitwise (· ||| ·) a b)
  | "^" => .ok (bitwise (· ^^^ ·) a b)
  | "&" => .ok (bitwise (· &&& ·) a b)
  | "==" => .ok (truth (a = b))
  | "!=" => .ok (truth (a ≠ b))
  | "<" => .ok (truth (a < b))
  | "<=" => .ok (truth (a ≤ b))
  | ">" => .ok (truth (a > b))
  | ">=" => .ok (truth (a ≥ b))
  | "<<" => .ok (wrap (a * 2 ^ (b % 64).toNat))
  | ">>" => .ok (Int.fdiv a (2 ^ (b % 64).toNat))
  | "+" => .ok (wrap (a + b))
  | "-" => .ok (wrap (a - b))
  | "*" => .ok (wrap (a * b))
  | "/" => if b = 0 then .error (.expression "division by zero") else .ok (wrap (Int.tdiv a b))
  | "%" => if b = 0 then .error (.expression "division by zero") else .ok (Int.tmod a b)
  | _ => .ok b

/-- the marks that bind alike, those that bind least first -/
def levels : List (List String) :=
  [["|"], ["^"], ["&"], ["==", "!="], ["<", "<=", ">", ">="], ["<<", ">>"], ["+", "-"], ["*", "/", "%"]]

/-- the marks that assign a value -/
def assigning : List String := ["=", "+=", "-=", "*=", "/=", "%=", "&=", "|=", "^=", "<<=", ">>="]

mutual

/-- an assignment, or something else; `idle` says that it does not count -/
def assignment (lookup : Octets → Octets) (idle : Bool) : Nat → Evaluating Int
  | 0 => throw (.expression "expecting primary")
  | fuel + 1 => do
    match (← get).rest with
    | .name name :: .mark m :: rest =>
      if assigning.contains m then
        modify fun p => { p with rest }
        let b ← assignment lookup idle fuel
        if idle then return b
        else
          let n ← if m = "=" then pure b else do
            operate (String.ofList m.toList.dropLast) (← valueOf lookup name) b
          modify fun p => { p with assigned := (name, n) :: p.assigned }
          return n
      else choice lookup idle fuel
    | _ => choice lookup idle fuel

/-- a choice between two values -/
def choice (lookup : Octets → Octets) (idle : Bool) : Nat → Evaluating Int
  | 0 => throw (.expression "expecting primary")
  | fuel + 1 => do
    let a ← disjunction lookup idle fuel
    match ← takeMark ["?"] with
    | none => return a
    | some _ => do
      let b ← assignment lookup (idle || a = 0) fuel
      match ← takeMark [":"] with
      | none => throw (.expression "expecting ':'")
      | some _ => do
        let c ← choice lookup (idle || a ≠ 0) fuel
        return if a ≠ 0 then b else c

/-- whether one of two values is true -/
def disjunction (lookup : Octets → Octets) (idle : Bool) : Nat → Evaluating Int
  | 0 => throw (.expression "expecting primary")
  | fuel + 1 => do
    let a ← conjunction lookup idle fuel
    match ← takeMark ["||"] with
    | none => return a
    | some _ => do
      let b ← disjunction lookup (idle || a ≠ 0) fuel
      return truth (a ≠ 0 || b ≠ 0)

/-- whether both of two values are true -/
def conjunction (lookup : Octets → Octets) (idle : Bool) : Nat → Evaluating Int
  | 0 => throw (.expression "expecting primary")
  | fuel + 1 => do
    let a ← operation lookup idle fuel levels
    match ← takeMark ["&&"] with
    | none => return a
    | some _ => do
      let b ← conjunction lookup (idle || a = 0) fuel
      return truth (a ≠ 0 && b ≠ 0)

/-- operations that bind at least so much -/
def operation (lookup : Octets → Octets) (idle : Bool) : Nat → List (List String) → Evaluating Int
  | 0, _ => throw (.expression "expecting primary")
  | fuel + 1, [] => primary lookup idle fuel
  | fuel + 1, ms :: more => do
    let a ← operation lookup idle fuel more
    operationsAfter lookup idle fuel ms more a

/-- operations that bind alike, after a first value -/
def operationsAfter (lookup : Octets → Octets) (idle : Bool) : Nat → List String → List (List String) →
    Int → Evaluating Int
  | 0, _, _, _ => throw (.expression "expecting primary")
  | fuel + 1, ms, more, a => do
    match ← takeMark ms with
    | none => return a
    | some m => do
      let b ← operation lookup idle fuel more
      let c ← if idle then pure b else operate m a b
      operationsAfter lookup idle fuel ms more c

/-- a number, a variable, or something in brackets -/
def primary (lookup : Octets → Octets) (idle : Bool) : Nat → Evaluating Int
  | 0 => throw (.expression "expecting primary")
  | fuel + 1 => do
    match ← take with
    | some (.number n) => return n
    | some (.name name) => if idle then return 0 else valueOf lookup name
    | some (.mark "(") => do
      let a ← assignment lookup idle fuel
      match ← takeMark [")"] with
      | some _ => return a
      | none => throw (.expression "expecting ')'")
    | some (.mark "+") => primary lookup idle fuel
    | some (.mark "-") => return wrap (-(← primary lookup idle fuel))
    | some (.mark "!") => return truth ((← primary lookup idle fuel) = 0)
    | some (.mark "~") => return -(← primary lookup idle fuel) - 1
    | _ => throw (.expression "expecting primary")

end

/-- the value of an expression and its assignments, the first one first, or what is wrong with it -/
def evaluate (lookup : Octets → Octets) (cs : Octets) : Except Failure (Int × List (Octets × Int)) := do
  let ls := lexemes (cs.length + 1) cs
  let (n, p) ← (assignment lookup false (16 * ls.length + 32)).run { rest := ls }
  if p.rest.isEmpty then return (n, p.assigned.reverse) else throw (.expression "expecting EOF")

example : (evaluate (fun _ => []) "1+2*3<<(010-0x7)".toList).toOption.map (·.1) = some 14 := by decide +kernel
example : (evaluate (fun _ => []) "x=7,2".toList).toOption = none := by decide +kernel

end Debate.Shell.Arithmetic
