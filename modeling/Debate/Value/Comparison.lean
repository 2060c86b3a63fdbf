import Debate.Fault

/-!
# Comparing unchecked values

Two values are the same if they count as equal where their types are not checked: numbers and truth
values by what they are worth, objects whatever the order of their fields. Numbers, texts and lists
have an order, lists by the first items that differ; all other values have none.

* `Value.ratio?`        a number as a ratio;
* `Value.same`          whether two values count as equal;
* `Value.isKey`         whether a value may stand as a key, which lists and objects may not;
* `Value.less`          whether a value comes before another, or the fault of asking;
* `Value.sorted`        values in ascending order.
-/

namespace Debate.Value

open Debate.Number

/-! ## numbers -/

/-- a finite number as a ratio; true and false are one and zero -/
def ratio? : Value → Option (Int × Nat)
  | .bool b => some (if b then 1 else 0, 1)
  | .int n => some (n, 1)
  | .float (.finite s m e) => some (Double.ratio s m e)
  | _ => none

/-- whether a value is a number -/
def isNumber : Value → Bool
  | .bool _ | .int _ | .float _ => true
  | _ => false

/-- whether two numbers are equal; not a number is not even equal to itself -/
def sameNumber (v w : Value) : Bool :=
  match v.ratio?, w.ratio? with
  | some a, some b => a.1 * b.2 == b.1 * a.2
  | _, _ =>
    match v, w with
    | .float (.infinite s), .float (.infinite t) => s == t
    | _, _ => false

/-- whether a number comes before another -/
def lessNumber (v w : Value) : Bool :=
  match v.ratio?, w.ratio? with
  | some a, some b => a.1 * b.2 < b.1 * a.2
  | _, _ =>
    match v, w with
    | .float (.infinite s), .float (.infinite t) => s && !t
    | .float (.infinite s), w => s && w.ratio?.isSome
    | v, .float (.infinite t) => !t && v.ratio?.isSome
    | _, _ => false

/-! ## equality -/

mutual

/-- whether two values count as equal -/
def same : Value → Value → Bool
  | .null, .null => true
  | .text s, .text t => s == t
  | .list vs, .list ws => sameItems vs ws
  | .object fs, .object gs => fs.length == gs.length && sameFields fs gs
  | v, w => sameNumber v w

/-- whether two lists have equal items -/
def sameItems : List Value → List Value → Bool
  | [], [] => true
  | v :: vs, w :: ws => same v w && sameItems vs ws
  | _, _ => false

/-- whether each of the fields has an equal value in an object -/
def sameFields : List (String × Value) → List (String × Value) → Bool
  | [], _ => true
  | (k, v) :: fs, gs =>
    (match gs.find? fun g => g.1 == k with
      | some g => same v g.2
      | none => false) && sameFields fs gs

end

@[simp] theorem same_text (s t : String) : same (.text s) (.text t) = (s == t) := by rw [same]

@[simp] theorem same_text_self (s : String) : same (.text s) (.text s) = true := by simp

/-- only a text is equal to a text -/
theorem eq_of_same_text {v : Value} {t : String} (h : v.same (.text t) = true) :
    v = .text t := by
  cases v with
  | text u =>
    rw [same_text] at h
    rw [eq_of_beq h]
  | _ => simp [same, sameNumber, ratio?] at h

theorem same_text_iff {v : Value} {t : String} : v.same (.text t) = true ↔ v = .text t := by
  constructor
  · exact eq_of_same_text
  · rintro rfl
    exact same_text_self t

theorem text_same_iff {v : Value} {t : String} : (Value.text t).same v = true ↔ v = .text t := by
  constructor
  · intro h
    cases v with
    | text u => rw [eq_of_beq ((same_text t u).symm.trans h)]
    | _ => simp [same, sameNumber, ratio?] at h
  · rintro rfl
    exact same_text_self t

/-- whether a value may stand as a key -/
def isKey : Value → Bool
  | .list _ | .object _ => false
  | _ => true

@[simp] theorem isKey_text (s : String) : isKey (.text s) = true := rfl

/-- the fault of a value that cannot stand as a key -/
def notAKey (v : Value) : Fault := .unsupported ("unhashable type: '" ++ v.kind ++ "'")

/-- whether a value is among others -/
def isAmong (v : Value) (vs : List Value) : Bool := vs.any fun w => w = v || same w v

theorem isAmong_text (s : String) (ss : List String) :
    isAmong (.text s) (ss.map .text) = ss.contains s := by
  induction ss with
  | nil => rfl
  | cons t ts ih =>
    rw [List.map_cons, isAmong, List.any_cons, ← isAmong, ih, List.contains_cons]
    by_cases h : s = t
    · simp [h]
    · simp [Ne.symm h, beq_eq_false_iff_ne.2 h]

/-! ## order -/

/-- the fault of comparing values that have no order -/
def unordered (v w : Value) : Fault :=
  .unsupported ("'<' not supported between instances of '" ++ v.kind ++ "' and '" ++ w.kind ++ "'")

mutual

/-- whether a value comes before another -/
def less : Value → Value → Except Fault Bool
  | .text s, .text t => .ok (s.toList < t.toList)
  | .list vs, .list ws => lessItems vs ws
  | v, w => if v.isNumber && w.isNumber then .ok (lessNumber v w) else .error (unordered v w)

/-- whether a list comes before another: the first items that differ decide, then the lengths -/
def lessItems : List Value → List Value → Except Fault Bool
  | _, [] => .ok false
  | [], _ :: _ => .ok true
  | v :: vs, w :: ws => if v = w || same v w then lessItems vs ws else less v w

end

/-! ## sorting

Sorting asks for as few comparisons as it can, and a comparison may be a fault; so which comparisons
are made is part of what it does. First the longest ascending or strictly descending start is found,
then each further value is put in its place by halving. -/

/-- the length of the ascending start behind a value, which counts too -/
def ascending (before : Value) : List Value → Except Fault Nat
  | [] => .ok 1
  | v :: vs => do
    if ← less v before then return 1 else return 1 + (← ascending v vs)

/-- the length of the strictly descending start behind a value, which counts too -/
def descending (before : Value) : List Value → Except Fault Nat
  | [] => .ok 1
  | v :: vs => do
    if ← less v before then return 1 + (← descending v vs) else return 1

/-- the place of a value among sorted ones between two bounds: behind those that it does not come
before -/
def placeAmong (sorted : Array Value) (v : Value) (low high : Nat) : Except Fault Nat :=
  if _ : low < high then do
    let middle := low + (high - low) / 2
    match sorted[middle]? with
    | none => return low
    | some w =>
      if ← less v w then placeAmong sorted v low middle
      else placeAmong sorted v (middle + 1) high
  else return low
termination_by high - low

/-- a value put in its place among sorted ones -/
def insertSorted (sorted : List Value) (v : Value) : Except Fault (List Value) := do
  let place ← placeAmong sorted.toArray v 0 sorted.length
  return sorted.take place ++ v :: sorted.drop place

/-- the sorted start of values, and the others -/
def sortedStart : List Value → Except Fault (List Value × List Value)
  | v :: w :: rest => do
    if ← less w v then
      let n := 1 + (← descending w rest)
      return (((v :: w :: rest).take n).reverse, (v :: w :: rest).drop n)
    else
      let n := 1 + (← ascending w rest)
      return ((v :: w :: rest).take n, (v :: w :: rest).drop n)
  | vs => .ok (vs, [])

/-- values in ascending order -/
def sorted (vs : List Value) : Except Fault (List Value) := do
  let (start, rest) ← sortedStart vs
  rest.foldlM insertSorted start

end Debate.Value
