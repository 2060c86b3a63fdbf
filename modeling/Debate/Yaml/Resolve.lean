import Debate.Number.Double
import Debate.Value.Access
import Debate.Value.Reader
import Debate.Yaml.Lexer
import Debate.Yaml.Node

/-!
# Values of a YAML text

A scalar without quotes may stand for no value, for a truth value or for a number; otherwise it is a
text. Integers are written to the base two, eight, ten, sixteen or sixty, and low lines in them are
skipped; so are low lines in numbers with a point.

* `scalarValue`      the value of a plain scalar;
* `Node.inspect`     the first problem of a node, from its surface inwards;
* `Node.value`       the value of a node;
* `read`             the value of a text.
-/

namespace Debate.Yaml

open Debate.Number

/-! ## words -/

/-- the words for true, and those for false -/
def truths : List String := ["yes", "Yes", "YES", "true", "True", "TRUE", "on", "On", "ON"]

/-- the words for false -/
def falsehoods : List String := ["no", "No", "NO", "false", "False", "FALSE", "off", "Off", "OFF"]

/-- the words for no value -/
def nulls : List String := ["", "~", "null", "Null", "NULL"]

/-! ## integers -/

/-- a digit, or a low line between digits -/
def isLoose (c : Char) : Bool := c.isDigit || c = '_'

/-- a sign in front of a number, and what follows it -/
def signed (cs : List Char) : Bool × List Char :=
  match cs with
  | '-' :: cs => (true, cs)
  | '+' :: cs => (false, cs)
  | cs => (false, cs)

/-- a digit group of a number to the base sixty -/
def isSixtieth (cs : List Char) : Bool :=
  match cs with
  | [c] => c.isDigit
  | [b, c] => '0' ≤ b && b ≤ '5' && c.isDigit
  | _ => false

/-- the characters between colons -/
def groups (cs : List Char) : List (List Char) := Text.split [':'] cs

/-- the value of digits to a base, low lines skipped -/
def digitsValue (base : Nat) (cs : List Char) : Nat :=
  (cs.filter (· ≠ '_')).foldl (fun n c => base * n + (hexDigit? c).getD 0) 0

/-- a message for digits that are only low lines -/
def noDigits (base : Nat) : Problem :=
  .badNumber ("invalid literal for int() with base " ++ toString base ++ ": ''")

/-- the integer of digits to a base other than ten -/
def based (base : Nat) (cs : List Char) : Except Problem Nat :=
  if cs.all (· = '_') then .error (noDigits base) else .ok (digitsValue base cs)

/-- the integer of decimal digits; there is a limit to their number -/
def decimal (cs : List Char) : Except Problem Nat :=
  let n := (cs.filter (· ≠ '_')).length
  if n > 4300 then .error (.badNumber (Value.hugeIntegerText n)) else .ok (digitsValue 10 cs)

/-- an unsigned integer -/
def natural? (cs : List Char) : Option (Except Problem Nat) :=
  match cs with
  | '0' :: 'b' :: ds =>
    if ds ≠ [] ∧ ds.all (fun c => c = '0' || c = '1' || c = '_') then some (based 2 ds) else none
  | '0' :: 'x' :: ds =>
    if ds ≠ [] ∧ ds.all (fun c => (hexDigit? c).isSome || c = '_') then some (based 16 ds) else none
  | ['0'] => some (.ok 0)
  | '0' :: ds =>
    if ds.all (fun c => ('0' ≤ c && c ≤ '7') || c = '_') then some (.ok (digitsValue 8 ds)) else none
  | c :: ds =>
    if !c.isDigit then none
    else if ds.all isLoose then some (decimal (c :: ds))
    else
      match groups (c :: ds) with
      | first :: g :: gs =>
        if first.all isLoose ∧ (g :: gs).all isSixtieth then
          some ((decimal first).map fun n => (g :: gs).foldl (fun n g => 60 * n + digitsValue 10 g) n)
        else none
      | _ => none
  | [] => none

/-- an integer -/
def integer? (cs : List Char) : Option (Except Problem Int) :=
  let (negative, ds) := signed cs
  (natural? ds).map fun r => r.map fun n => if negative then -(n : Int) else n

/-! ## numbers with a point -/

/-- an exponent with its sign, if there is one -/
def exponent? (cs : List Char) : Option Int :=
  match cs with
  | [] => some 0
  | e :: s :: ds =>
    if (e = 'e' ∨ e = 'E') ∧ (s = '-' ∨ s = '+') ∧ ds ≠ [] ∧ ds.all Char.isDigit then
      some (if s = '-' then -(digitsValue 10 ds : Int) else digitsValue 10 ds)
    else none
  | _ => none

/-- digits before and after a point as a number -/
def pointed (whole part : List Char) (exponent : Int) : Double :=
  let part := part.filter (· ≠ '_')
  .ofDecimal false (digitsValue 10 (whole ++ part)) (exponent - part.length)

/-- an unsigned number with a point -/
def unsignedFloat? (cs : List Char) : Option Double :=
  let whole := cs.takeWhile fun c => isLoose c || c = ':'
  match cs.drop whole.length with
  | '.' :: rest =>
    let part := rest.takeWhile isLoose
    let tail := rest.drop part.length
    match groups whole with
    | [w] =>
      match w, part with
      | [], p :: _ => if p.isDigit then (exponent? tail).map fun e => pointed [] part e else none
      | c :: _, _ => if c.isDigit then (exponent? tail).map fun e => pointed w part e else none
      | [], [] => none
    | w :: gs =>
      if (w.head?.map Char.isDigit).getD false ∧ w.all isLoose ∧ gs.all isSixtieth ∧ tail = [] then
        let last := gs.getLast?.getD []
        let larger := ((w :: gs).dropLast).reverse
        let start := pointed last part 0
        some (larger.foldl (fun (s : Double × Nat) g =>
          (Double.add s.1 (Double.mul (pointed g [] 0) (Double.ofInt s.2)), 60 * s.2)) (start, 60)).1
      else none
    | [] => none
  | _ => none

/-- a number with a point; no sign stands in front of a point -/
def float? (cs : List Char) : Option Double :=
  let (negative, ds) := signed cs
  let name := String.ofList ds
  if name = ".inf" ∨ name = ".Inf" ∨ name = ".INF" then some (.infinite negative)
  else if [".nan", ".NaN", ".NAN"].contains (String.ofList cs) then some .undefined
  else if ds.head? = some '.' ∧ ds.length < cs.length then none
  else (unsignedFloat? ds).map fun x => if negative then x.negate else x

/-! ## values -/

/-- the value of a plain scalar -/
def scalarValue (s : String) : Except Problem Value :=
  if nulls.contains s then .ok .null
  else if truths.contains s then .ok (.bool true)
  else if falsehoods.contains s then .ok (.bool false)
  else if s = "<<" ∨ s = "=" then .error .malformed
  else
    match float? s.toList with
    | some x => .ok (.float x)
    | none =>
      match integer? s.toList with
      | some r => r.map Value.int
      | none => .ok (.text s)

/-- the pairs that a merged value gives: those of an object, or of objects, the first of them last -/
def mergedPairs : Value → Except Problem (List (String × Value))
  | .object fs => .ok fs
  | .list vs => do
    let parts ← vs.mapM fun v =>
      match v with
      | .object fs => .ok fs
      | _ => .error Problem.malformed
    return parts.reverse.flatten
  | _ => .error .malformed

namespace Node

/-- the pairs that a merged node gives: those of an object, or of objects, the first of them last -/
def gathered (pairs : List (List (Node × Node))) : List (Node × Node) := pairs.reverse.flatten

mutual

/-- the pairs of an object, those that are merged into it in front of its own -/
def flattened : List (Node × Node) → Except Problem (List (Node × Node) × List (Node × Node))
  | [] => .ok ([], [])
  | (.scalar true "<<", .mapping ps) :: rest => do
    let (inner, own) ← flattened ps
    let (merged, others) ← flattened rest
    return (inner ++ own ++ merged, others)
  | (.scalar true "<<", .sequence ns) :: rest => do
    let parts ← flattenedAll ns
    let (merged, others) ← flattened rest
    return (gathered parts ++ merged, others)
  | (.scalar true "<<", .scalar _ _) :: _ => .error .malformed
  | p :: rest => do
    let (merged, others) ← flattened rest
    return (merged, p :: others)

/-- the pairs of nodes that are all objects -/
def flattenedAll : List Node → Except Problem (List (List (Node × Node)))
  | [] => .ok []
  | .mapping ps :: ns => do
    let (inner, own) ← flattened ps
    return (inner ++ own) :: (← flattenedAll ns)
  | _ :: _ => .error .malformed

end

/-- a scalar has a value -/
def inspectScalar : Node → Except Problem Unit
  | .scalar true s => (scalarValue s).map fun _ => ()
  | _ => .ok ()

/-- a key has a value, and is no list or object -/
def inspectKey : Node → Except Problem Unit
  | .scalar true "=" => .ok ()
  | .scalar isPlain s => inspectScalar (.scalar isPlain s)
  | _ => .error .malformed

/-- the scalars in a list or object have values; what is left are the lists and objects in it -/
def inspectInside : Node → Except Problem (List Node)
  | .sequence ns => do
    ns.forM inspectScalar
    return ns
  | .mapping ps => do
    let (merged, own) ← flattened ps
    (merged ++ own).forM fun p => do
      inspectKey p.1
      inspectScalar p.2
    return (merged ++ own).map (·.2)
  | .scalar .. => .ok []

/-- nodes have values: first what stands in them, then what stands further inside -/
def inspectLevels : Nat → List Node → Except Problem Unit
  | 0, _ => .ok ()
  | fuel + 1, ns =>
    if ns.isEmpty then .ok ()
    else do inspectLevels fuel (← ns.mapM inspectInside).flatten

/-- a node has a value; of several problems the one that lies least deep is found -/
def inspect (n : Node) : Except Problem Unit := do
  inspectScalar n
  inspectLevels (maxDepth + maxDepth) [n]

mutual

/-- the value of a node -/
def value : Node → Except Problem Value
  | .scalar true s => scalarValue s
  | .scalar false s => .ok (.text s)
  | .sequence items => do return .list (← values items)
  | .mapping pairs => do
    let (merged, own) ← fields pairs
    return .object (Fields.ofPairs (merged ++ own))

/-- the values of nodes -/
def values : List Node → Except Problem (List Value)
  | [] => .ok []
  | n :: ns => do return (← value n) :: (← values ns)

/-- the pairs of an object: those that are merged into it, and its own -/
def fields : List (Node × Node) → Except Problem (List (String × Value) × List (String × Value))
  | [] => .ok ([], [])
  | (k, v) :: ps => do
    match k with
    | .scalar true "<<" => do
      let m ← mergedPairs (← value v)
      let (merged, own) ← fields ps
      return (m ++ merged, own)
    | .scalar true "=" => do
      let v ← value v
      let (merged, own) ← fields ps
      return (merged, ("=", v) :: own)
    | .scalar isPlain s => do
      let name ← if isPlain then scalarValue s else .ok (.text s)
      let v ← value v
      let (merged, own) ← fields ps
      return (merged, (name.shown, v) :: own)
    | _ => throw .malformed

end

end Node

/-- the value of a text; none for a text without a node -/
def read (s : String) : Except Problem Value := do
  match ← Node.ofTokens (tokens s.toList) with
  | some n => do
    n.inspect
    n.value
  | none => return .null

end Debate.Yaml
