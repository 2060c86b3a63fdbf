import Debate.Value.Access
import Debate.Value.Printer

/-!
# Merging a profile into a configuration

Some settings of a profile take the place of those of the configuration; sections are merged key by
key. All other keys of a profile are left out. A section may also be written as a list of pairs, and
then its keys need not be texts; such a section cannot be built from, but it can be merged.

* `Value.pairs`     a value as pairs of keys and values;
* `Pairs`           pairs as a map: a later value of a key takes the earlier place;
* `mergeProfile`    a configuration with the settings of a profile;
* `oddSections`     the sections that have keys other than texts afterwards.
-/

namespace Debate

/-- the fault of an item that is no pair -/
def Value.notAPair (index length : Nat) : Fault :=
  .badValue ("dictionary update sequence element #" ++ toString index ++ " has length " ++
    toString length ++ "; 2 is required")

/-- an item as a pair of a key and a value -/
def Value.pair (index : Nat) (v : Value) : Except Fault (Value × Value) := do
  match v with
  | .null | .bool _ | .int _ | .float _ =>
    throw (.unsupported ("cannot convert dictionary update sequence element #" ++ toString index ++
      " to a sequence"))
  | v =>
    match ← v.elements with
    | [k, x] => if k.isKey then return (k, x) else throw k.notAKey
    | other => throw (Value.notAPair index other.length)

/-- items as pairs, counted from a number -/
def Value.pairsFrom (index : Nat) : List Value → Except Fault (List (Value × Value))
  | [] => .ok []
  | v :: vs => do
    let p ← Value.pair index v
    return p :: (← Value.pairsFrom (index + 1) vs)

/-- a value as pairs of keys and values: the fields of an object, or the items of a list -/
def Value.pairs (v : Value) : Except Fault (List (Value × Value)) := do
  match v with
  | .object fs => return fs.map fun f => (.text f.1, f.2)
  | v => Value.pairsFrom 0 (← v.elements)

/-! ## pairs as maps -/

/-- pairs of keys and values -/
abbrev Pairs := List (Value × Value)

namespace Pairs

/-- a key with its value: in the place of an equal key if there is one, otherwise at the end -/
def put : Pairs → Value → Value → Pairs
  | [], key, v => [(key, v)]
  | p :: ps, key, v => if p.1.same key then (p.1, v) :: ps else p :: put ps key v

/-- every pair put after the other -/
def update (ps : Pairs) (new : Pairs) : Pairs := new.foldl (fun ps p => put ps p.1 p.2) ps

/-- pairs as the fields of an object -/
def fields (ps : Pairs) : Fields := Fields.ofPairs (ps.map fun p => (p.1.keyText, p.2))

/-- whether a key is no text -/
def isOdd (ps : Pairs) : Bool := ps.any fun p => p.1.text?.isNone

end Pairs

/-! ## merging -/

/-- the settings of a profile that take the place of others -/
def replacedKeys : List String := ["provider", "mode", "max_turns"]

/-- the sections of a profile that are merged key by key -/
def mergedKeys : List String := ["gemini", "openai", "ollama", "command", "personas"]

/-- a setting of a profile in the place of another -/
def replaceKey (profile : Value) (cfg : Fields) (key : String) : Except Fault Fields := do
  if ← profile.mentions key then return cfg.put key (← profile.at key) else return cfg

/-- a section of a profile merged into that of the configuration; nothing if the profile has none -/
def mergedSection (profile : Value) (cfg : Fields) (key : String) : Except Fault (Option Pairs) := do
  if ← profile.mentions key then
    let old ← (cfg.getD key (.object [])).pairs
    let new ← (← profile.at key).pairs
    return some ((Pairs.update [] old).update new)
  else return none

/-- a section of a profile merged into that of the configuration -/
def mergeKey (profile : Value) (cfg : Fields) (key : String) : Except Fault Fields := do
  match ← mergedSection profile cfg key with
  | some ps => return cfg.put key (.object ps.fields)
  | none => return cfg

/-- a configuration with the settings of a profile -/
def mergeProfile (cfg : Fields) (profile : Value) : Except Fault Fields := do
  let cfg ← replacedKeys.foldlM (replaceKey profile) cfg
  mergedKeys.foldlM (mergeKey profile) cfg

/-- the sections that have keys other than texts when a profile is merged into a configuration -/
def oddSections (cfg : Fields) (profile : Value) : List String :=
  mergedKeys.filter fun key =>
    match mergedSection profile cfg key with
    | .ok (some ps) => ps.isOdd
    | _ => false

end Debate
