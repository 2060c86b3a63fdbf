import Debate.Number.Double

/-!
# Values of unchecked data

Configuration files, replies of a service and stored records are read without a check of their
types. A value is what such a text may hold: the JSON values, whole and fractional numbers apart,
objects with their fields in the order in which they were written.

* `Value`                    the values;
* `Value.isVoid`             the values that count as absent: null, false, zero and what is empty;
* `Fields.get?`, `Fields.put`  a field of an object, read and written;
* `Fields.ofPairs`           pairs as an object: a later value of a key takes the earlier place.
-/

namespace Debate

open Debate.Number

/-- a value of unchecked type -/
inductive Value where
  | null
  | bool (b : Bool)
  | int (n : Int)
  | float (x : Double)
  | text (s : String)
  | list (items : List Value)
  | object (fields : List (String × Value))
  deriving Inhabited

/-- the fields of an object, in order -/
abbrev Fields := List (String × Value)

namespace Value

/-! ## equality -/

mutual

/-- equality of values is decidable -/
def decEq : (a b : Value) → Decidable (a = b)
  | .null, .null => isTrue rfl
  | .bool a, .bool b => decidable_of_iff (a = b) (by simp)
  | .int a, .int b => decidable_of_iff (a = b) (by simp)
  | .float a, .float b => decidable_of_iff (a = b) (by simp)
  | .text a, .text b => decidable_of_iff (a = b) (by simp)
  | .list a, .list b => @decidable_of_iff _ (a = b) (by simp) (decEqItems a b)
  | .object a, .object b => @decidable_of_iff _ (a = b) (by simp) (decEqFields a b)
  | .null, .bool _ | .null, .int _ | .null, .float _ | .null, .text _ | .null, .list _
  | .null, .object _ => isFalse (by simp)
  | .bool _, .null | .bool _, .int _ | .bool _, .float _ | .bool _, .text _ | .bool _, .list _
  | .bool _, .object _ => isFalse (by simp)
  | .int _, .null | .int _, .bool _ | .int _, .float _ | .int _, .text _ | .int _, .list _
  | .int _, .object _ => isFalse (by simp)
  | .float _, .null | .float _, .bool _ | .float _, .int _ | .float _, .text _ | .float _, .list _
  | .float _, .object _ => isFalse (by simp)
  | .text _, .null | .text _, .bool _ | .text _, .int _ | .text _, .float _ | .text _, .list _
  | .text _, .object _ => isFalse (by simp)
  | .list _, .null | .list _, .bool _ | .list _, .int _ | .list _, .float _ | .list _, .text _
  | .list _, .object _ => isFalse (by simp)
  | .object _, .null | .object _, .bool _ | .object _, .int _ | .object _, .float _
  | .object _, .text _ | .object _, .list _ => isFalse (by simp)

/-- equality of the items of two lists is decidable -/
def decEqItems : (a b : List Value) → Decidable (a = b)
  | [], [] => isTrue rfl
  | x :: xs, y :: ys =>
    @decidable_of_iff _ (x = y ∧ xs = ys) (by simp)
      (@instDecidableAnd _ _ (decEq x y) (decEqItems xs ys))
  | [], _ :: _ | _ :: _, [] => isFalse (by simp)

/-- equality of the fields of two objects is decidable -/
def decEqFields : (a b : List (String × Value)) → Decidable (a = b)
  | [], [] => isTrue rfl
  | (j, x) :: xs, (k, y) :: ys =>
    @decidable_of_iff _ (j = k ∧ x = y ∧ xs = ys) (by simp [and_assoc])
      (@instDecidableAnd _ _ _ (@instDecidableAnd _ _ (decEq x y) (decEqFields xs ys)))
  | [], _ :: _ | _ :: _, [] => isFalse (by simp)

end

instance : DecidableEq Value := decEq

/-! ## parts of a value -/

/-- the values that count as absent -/
def isVoid : Value → Bool
  | .null => true
  | .bool b => !b
  | .int n => n == 0
  | .float x => x.isZero
  | .text s => s.isEmpty
  | .list items => items.isEmpty
  | .object fields => fields.isEmpty

/-- a value unless it counts as absent -/
def orElse (v w : Value) : Value := if v.isVoid then w else v

/-- a text, or nothing for a value of another type -/
def text? : Value → Option String
  | .text s => some s
  | _ => none

@[simp] theorem isVoid_text (s : String) : (Value.text s).isVoid = s.isEmpty := rfl

@[simp] theorem isVoid_null : Value.null.isVoid = true := rfl

/-- the value of an optional text, null for none -/
def ofText? : Option String → Value
  | some s => .text s
  | none => .null

end Value

/-! ## fields -/

namespace Fields

/-- the value of a key -/
def get? (fields : Fields) (key : String) : Option Value :=
  (fields.find? fun f => f.1 == key).map (·.2)

/-- the value of a key, or another value if the key is absent -/
def getD (fields : Fields) (key : String) (default : Value) : Value := (get? fields key).getD default

/-- whether a key is present -/
def has (fields : Fields) (key : String) : Bool := fields.any fun f => f.1 == key

/-- a key with its value: in the place of the key if it is present, otherwise at the end -/
def put : Fields → String → Value → Fields
  | [], key, v => [(key, v)]
  | f :: fs, key, v => if f.1 == key then (key, v) :: fs else f :: put fs key v

/-- every pair put after the other -/
def update (fields : Fields) (pairs : List (String × Value)) : Fields :=
  pairs.foldl (fun fs p => put fs p.1 p.2) fields

/-- the object that pairs write -/
def ofPairs (pairs : List (String × Value)) : Fields := update [] pairs

@[simp] theorem get?_nil (key : String) : get? [] key = none := rfl

theorem get?_cons (f : String × Value) (fs : Fields) (key : String) :
    get? (f :: fs) key = if f.1 = key then some f.2 else get? fs key := by
  by_cases h : f.1 = key <;> simp [get?, h]

theorem get?_put (fields : Fields) (key k : String) (v : Value) :
    get? (put fields key v) k = if key = k then some v else get? fields k := by
  induction fields with
  | nil => simp [put, get?_cons]
  | cons f fs ih =>
    by_cases h : f.1 = key
    · by_cases hk : key = k <;> simp [put, get?_cons, h, hk]
    · by_cases hk : key = k
      · subst hk; simp [put, get?_cons, h, ih]
      · simp [put, get?_cons, h, ih, hk]

theorem get?_put_self (fields : Fields) (key : String) (v : Value) :
    get? (put fields key v) key = some v := by simp [get?_put]

@[simp] theorem update_nil (fields : Fields) : update fields [] = fields := rfl

@[simp] theorem update_cons (fields : Fields) (p : String × Value) (ps : List (String × Value)) :
    update fields (p :: ps) = update (put fields p.1 p.2) ps := rfl

theorem isSome_get? (fields : Fields) (key : String) :
    (get? fields key).isSome = has fields key := by
  induction fields with
  | nil => rfl
  | cons f fs ih => rw [get?_cons]; by_cases h : f.1 = key <;> simp_all [has]

end Fields

namespace Value

/-- the fields of an object, or nothing for a value of another type -/
def fields? : Value → Option Fields
  | .object fields => some fields
  | _ => none

/-- the value of a key of an object -/
def get? (v : Value) (key : String) : Option Value := v.fields?.bind fun fs => Fields.get? fs key

end Value

end Debate
