import Debate.Shell.Program.Copy
import Debate.Shell.Regex.Reader

/-!
# Expressions of words

An expression is made of words: numbers and texts, operations on them, comparisons, and brackets. What
it comes to is a text; an empty text and zero count as nothing.

* `Expression.evaluate`   what words come to, or what is wrong with them;
* `expr`                  the program.
-/

namespace Debate.Shell

namespace Expression

/-- the integer that a text writes -/
def integer? (cs : Octets) : Option Int :=
  match cs with
  | '-' :: ds => (Octets.natural? ds).map fun n => -(n : Int)
  | ds => (Octets.natural? ds).map Int.ofNat

/-- whether a text counts as nothing -/
def isNothing (cs : Octets) : Bool :=
  match cs with
  | '-' :: ds => !ds.isEmpty && ds.all (· = '0')
  | ds => ds.all (· = '0')

/-- a truth as a number -/
def truth (b : Bool) : Octets := if b then ['1'] else ['0']

/-- what matches an expression at the start of a text: what its first group holds, or how much it is -/
def matched (text pattern : Octets) : Except Octets Octets :=
  match Regex.read {} (Octets.characters pattern) with
  | .error e => .error e.toList
  | .ok r =>
    let cs := (Octets.characters text).toArray
    match r.matchAt? { text := cs } 0 with
    | some f =>
      if r.groupCount = 0 then .ok (Octets.ofNat f.stop)
      else .ok (match f.group? 1 with
        | some (a, b) => Octets.ofCharacters (cs.extract a b).toList
        | none => [])
    | none => .ok (if r.groupCount = 0 then ['0'] else [])

/-- an operation on two integers -/
def calculate (f : Int → Int → Except Octets Int) (a b : Octets) : Except Octets Octets :=
  match integer? a, integer? b with
  | some x, some y => (f x y).map Octets.ofInt
  | _, _ => .error "non-integer argument".toList

/-- a quotient or a remainder -/
def divided (f : Int → Int → Int) (x y : Int) : Except Octets Int :=
  if y = 0 then .error "division by zero".toList else .ok (f x y)

/-- a comparison of integers, or of texts if one of them is no integer -/
def compared (op : String) (a b : Octets) : Octets :=
  let o := match integer? a, integer? b with
    | some x, some y => compare x y
    | _, _ => if Octets.before a b then .lt else if Octets.before b a then .gt else .eq
  truth (match op with
    | "<" => o = .lt
    | "<=" => o ≠ .gt
    | "=" | "==" => o = .eq
    | "!=" => o ≠ .eq
    | ">=" => o ≠ .lt
    | _ => o = .gt)

/-- the operators of each level, from those that bind least -/
def operators (level : Nat) : List String :=
  match level with
  | 0 => ["|"]
  | 1 => ["&"]
  | 2 => ["<", "<=", "=", "==", "!=", ">=", ">"]
  | 3 => ["+", "-"]
  | 4 => ["*", "/", "%"]
  | _ => [":"]

/-- what an operator makes of two values -/
def apply (op : String) (a b : Octets) : Except Octets Octets :=
  match op with
  | "|" => .ok (if !isNothing a then a else if isNothing b then ['0'] else b)
  | "&" => .ok (if isNothing a ∨ isNothing b then ['0'] else a)
  | "+" => calculate (fun x y => .ok (x + y)) a b
  | "-" => calculate (fun x y => .ok (x - y)) a b
  | "*" => calculate (fun x y => .ok (x * y)) a b
  | "/" => calculate (divided Int.tdiv) a b
  | "%" => calculate (divided Int.tmod) a b
  | ":" => matched a b
  | op => .ok (compared op a b)

/-- the place of the first of some characters in a text, counted from one -/
def indexOf (text chars : Octets) : Nat :=
  let xs := Octets.characters chars
  match (Octets.characters text).findIdx? xs.contains with
  | some i => i + 1
  | none => 0

/-- a part of a text -/
def part (text place length : Octets) : Octets :=
  match integer? place, integer? length with
  | some p, some l =>
    if p < 1 ∨ l < 1 then [] else Octets.ofCharacters (((Octets.characters text).drop (p.toNat - 1)).take l.toNat)
  | _, _ => []

/-- words about a word that is missing after another one -/
def missing (last : Octets) : Octets := "syntax error: missing argument after ".toList ++ Octets.quoted last

mutual

/-- what words come to, the word that was read last, and the words that are left; what counts is whether
mistakes of the values count -/
def level : Nat → Nat → Bool → Octets → List Octets → Except Octets (Octets × Octets × List Octets)
  | 0, _, _, _, _ => .error "too deep".toList
  | fuel + 1, n, counts, last, ws => do
    if 5 < n then word fuel counts last ws
    else
      let (a, last, ws) ← level fuel (n + 1) counts last ws
      chain fuel n counts a last ws

/-- operators of one level, after a value -/
def chain : Nat → Nat → Bool → Octets → Octets → List Octets → Except Octets (Octets × Octets × List Octets)
  | 0, _, _, _, _, _ => .error "too deep".toList
  | fuel + 1, n, counts, a, last, ws => do
    match ws with
    | [] => return (a, last, ws)
    | w :: rest =>
      let op := String.ofList w
      if (operators n).contains op then
        let needed := counts && !(n = 0 && !isNothing a) && !(n = 1 && isNothing a)
        let (b, last, rest) ← level fuel (n + 1) needed w rest
        let value ← if counts then (if needed then apply op a b else pure (if n = 0 then a else ['0'])) else pure a
        chain fuel n counts value last rest
      else return (a, last, ws)

/-- a word, or an operation that its name stands in front of -/
def word : Nat → Bool → Octets → List Octets → Except Octets (Octets × Octets × List Octets)
  | 0, _, _, _ => .error "too deep".toList
  | fuel + 1, counts, last, ws => do
    match ws with
    | [] => .error (missing last)
    | w :: rest =>
      match String.ofList w with
      | "+" =>
        match rest with
        | [] => .error (missing w)
        | x :: rest => return (x, x, rest)
      | "length" => do
        let (a, last, rest) ← word fuel counts w rest
        return (Octets.ofNat (Octets.characters a).length, last, rest)
      | "match" => do
        let (a, last, rest) ← word fuel counts w rest
        let (b, last, rest) ← word fuel counts last rest
        return (← if counts then matched a b else pure a, last, rest)
      | "index" => do
        let (a, last, rest) ← word fuel counts w rest
        let (b, last, rest) ← word fuel counts last rest
        return (Octets.ofNat (indexOf a b), last, rest)
      | "substr" => do
        let (a, last, rest) ← word fuel counts w rest
        let (b, last, rest) ← word fuel counts last rest
        let (c, last, rest) ← word fuel counts last rest
        return (part a b c, last, rest)
      | "(" => do
        let (a, last, rest) ← level fuel 0 counts w rest
        match rest with
        | [] => .error ("syntax error: expecting ')' after ".toList ++ Octets.quoted last)
        | [')'] :: rest => return (a, [')'], rest)
        | x :: _ => .error ("syntax error: expecting ')' instead of ".toList ++ Octets.quoted x)
      | ")" => .error "syntax error: unexpected ')'".toList
      | _ => return (w, w, rest)

end

/-- what words come to, or what is wrong with them -/
def evaluate (ws : List Octets) : Except Octets Octets := do
  let (a, _, rest) ← level (20 * ws.length + 20) 0 true [] ws
  match rest with
  | [] => return a
  | w :: _ => .error ("syntax error: unexpected argument ".toList ++ Octets.quoted w)

end Expression

/-- an expression of words -/
def expr : Program := fun _ s name args => do
  let words := match args with
    | ['-', '-'] :: ws => ws
    | ws => ws
  if words.isEmpty then s.refuse name "missing operand".toList 2
  else
    match Expression.evaluate words with
    | .error e => s.fail name e 2
    | .ok cs => do
      s.sayLine cs
      return if Expression.isNothing cs then 1 else 0

end Debate.Shell
