import Debate.Proofs.Merging
import Debate.Proofs.Layout

/-!
# Profiles put together

A merged section is the section of the configuration, updated with that of the profile. Updating an
object puts a value in the place of another and new keys at the end, so it can be done in any grouping:
an object updated twice is updated once, with the second update already in the first. Profiles are put
together in the same way.

* `Fields.get?_update`, `Fields.update_assoc`   updates, key by key and one after the other;
* `HasSections`            a configuration or a profile whose sections are objects;
* `withKey`, `merged`      a configuration with the settings of a profile that has sections;
* `mergeProfile_eq`        it is what merging leaves;
* `merged_idem`, `get?_merged_merged`   a profile merged twice, and two profiles after each other.
-/

namespace Debate

/-! ## objects updated with objects -/

namespace Fields

variable {fs gs : Fields} {k : String} {v : Value}

theorem get?_eq_none_iff : fs.get? k = none ↔ k ∉ fs.map (·.1) := by
  induction fs with
  | nil => exact iff_of_true rfl List.not_mem_nil
  | cons f fs ih =>
    rw [get?_cons, List.map_cons, List.mem_cons, not_or, ← ih]
    by_cases h : f.1 = k
    · rw [if_pos h]
      exact iff_of_false (Option.some_ne_none _) fun hne => hne.1 h.symm
    · rw [if_neg h, and_iff_right (Ne.symm h)]

/-- a value put where it is already -/
theorem put_of_get? (h : fs.get? k = some v) : fs.put k v = fs := by
  induction fs with
  | nil => cases h
  | cons f fs ih =>
    rw [get?_cons] at h
    by_cases hk : f.1 = k
    · rw [if_pos hk] at h
      cases h
      rw [put, if_pos (beq_iff_eq.mpr hk), ← hk]
    · rw [if_neg hk] at h
      rw [put, if_neg (mt beq_iff_eq.mp hk), ih h]

theorem put_put_self (fs : Fields) (k : String) (v w : Value) : (fs.put k v).put k w = fs.put k w := by
  induction fs with
  | nil => simp [put]
  | cons f fs ih => by_cases hk : f.1 = k <;> simp [put, hk, ih]

/-- a key that is there keeps its place, so that it can be written before or after another -/
theorem put_comm {k' : String} (hne : k ≠ k') (hk : k ∈ fs.map (·.1)) (v v' : Value) :
    (fs.put k' v').put k v = (fs.put k v).put k' v' := by
  induction fs with
  | nil => exact absurd hk List.not_mem_nil
  | cons f fs ih =>
    by_cases hf : f.1 = k
    · have hf' : f.1 ≠ k' := hf ▸ hne
      simp [put, hf, hne]
    · have hrest : k ∈ fs.map (·.1) := by
        rw [List.map_cons, List.mem_cons] at hk
        exact hk.resolve_left (Ne.symm hf)
      by_cases hf' : f.1 = k'
      · simp [put, hf', hne.symm]
      · simp [put, hf, hf', ih hrest]

theorem map_put_of_mem (hk : k ∈ fs.map (·.1)) (v : Value) :
    (fs.put k v).map (·.1) = fs.map (·.1) := by
  induction fs with
  | nil => exact absurd hk List.not_mem_nil
  | cons f fs ih =>
    by_cases hf : f.1 = k
    · simp [put, hf]
    · have hrest : k ∈ fs.map (·.1) := by
        rw [List.map_cons, List.mem_cons] at hk
        exact hk.resolve_left (Ne.symm hf)
      simp only [put, beq_eq_false_iff_ne.mpr hf, Bool.false_eq_true, if_false, List.map_cons, ih hrest]

theorem mem_put {k' : String} : k' ∈ (fs.put k v).map (·.1) ↔ k' = k ∨ k' ∈ fs.map (·.1) := by
  rw [← not_iff_not, ← get?_eq_none_iff, get?_put, not_or, ← get?_eq_none_iff]
  by_cases h : k = k'
  · rw [if_pos h]
    exact iff_of_false (Option.some_ne_none _) fun hne => hne.1 h.symm
  · rw [if_neg h, and_iff_right (Ne.symm h)]

theorem nodup_put (h : (fs.map (·.1)).Nodup) (k : String) (v : Value) :
    ((fs.put k v).map (·.1)).Nodup := by
  by_cases hk : k ∈ fs.map (·.1)
  · rwa [map_put_of_mem hk]
  · rw [put_of_not_mem hk, List.map_append]
    refine List.nodup_append.mpr ⟨h, List.pairwise_singleton _ k, ?_⟩
    rintro a hmem b hlast rfl
    obtain rfl : a = k := List.mem_singleton.mp hlast
    exact hk hmem

theorem nodup_update (h : (fs.map (·.1)).Nodup) (gs : Fields) : ((fs.update gs).map (·.1)).Nodup := by
  induction gs generalizing fs with
  | nil => exact h
  | cons g gs ih => exact ih (nodup_put h g.1 g.2)

/-- an updated object has the values of the update, and its own under all other keys -/
theorem get?_update (hgs : (gs.map (·.1)).Nodup) (fs : Fields) (k : String) :
    (fs.update gs).get? k = (gs.get? k).or (fs.get? k) := by
  induction gs generalizing fs with
  | nil => rfl
  | cons g gs ih =>
    obtain ⟨hg, hgs⟩ := List.nodup_cons.mp hgs
    rw [update_cons, ih hgs, get?_put, get?_cons]
    by_cases hk : g.1 = k
    · rw [if_pos hk, if_pos hk, get?_eq_none_iff.mpr (hk ▸ hg)]
      rfl
    · rw [if_neg hk, if_neg hk]

/-- an update with values that are there already -/
theorem update_eq_self (h : ∀ g ∈ gs, fs.get? g.1 = some g.2) : fs.update gs = fs := by
  induction gs with
  | nil => rfl
  | cons g gs ih =>
    obtain ⟨hg, hgs⟩ := List.forall_mem_cons.mp h
    rw [update_cons, put_of_get? hg, ih hgs]

theorem get?_of_mem (h : (fs.map (·.1)).Nodup) {f : String × Value} (hf : f ∈ fs) :
    fs.get? f.1 = some f.2 := by
  induction fs with
  | nil => cases hf
  | cons g fs ih =>
    obtain ⟨hg, hfs⟩ := List.nodup_cons.mp h
    rw [get?_cons]
    rcases List.mem_cons.mp hf with rfl | hmem
    · exact if_pos rfl
    · have hne : g.1 ≠ f.1 := fun heq => hg (List.mem_map.mpr ⟨f, hmem, heq.symm⟩)
      rw [if_neg hne, ih hfs hmem]

/-- an object updated twice with the same values -/
theorem update_update_self (hgs : (gs.map (·.1)).Nodup) (fs : Fields) :
    (fs.update gs).update gs = fs.update gs := by
  refine update_eq_self fun g hg => ?_
  rw [get?_update hgs, get?_of_mem hgs hg]
  rfl

theorem update_put_comm (hk : k ∈ fs.map (·.1)) (hgs : k ∉ gs.map (·.1)) (v : Value) :
    (fs.update gs).put k v = (fs.put k v).update gs := by
  induction gs generalizing fs with
  | nil => rfl
  | cons g gs ih =>
    rw [List.map_cons, List.mem_cons, not_or] at hgs
    rw [update_cons, update_cons, ih (mem_put.mpr (Or.inr hk)) hgs.2, put_comm hgs.1 hk]

/-- one more value, put into the update or into what was updated -/
theorem update_put (hgs : (gs.map (·.1)).Nodup) (fs : Fields) (k : String) (v : Value) :
    fs.update (gs.put k v) = (fs.update gs).put k v := by
  induction gs generalizing fs with
  | nil => rfl
  | cons g gs ih =>
    obtain ⟨hg, hgs⟩ := List.nodup_cons.mp hgs
    rw [put]
    split
    · rename_i hk
      cases eq_of_beq hk
      have hput : g.1 ∈ (fs.put g.1 g.2).map (·.1) := mem_put.mpr (Or.inl rfl)
      rw [update_cons, update_cons, update_put_comm hput hg, put_put_self]
    · rw [update_cons, update_cons, ih hgs]

/-- two updates one after the other are one update, with the second already in the first -/
theorem update_assoc (hgs : (gs.map (·.1)).Nodup) (fs hs : Fields) :
    fs.update (gs.update hs) = (fs.update gs).update hs := by
  induction hs generalizing gs with
  | nil => rfl
  | cons h hs ih => rw [update_cons, update_cons, ih (nodup_put hgs h.1 h.2), update_put hgs]

end Fields

/-! ## sections that are objects -/

namespace Pairs

/-- the fields of an object as pairs -/
def ofFields (fs : Fields) : Pairs := fs.map fun f => (.text f.1, f.2)

theorem put_ofFields (fs : Fields) (k : String) (v : Value) :
    (ofFields fs).put (.text k) v = ofFields (fs.put k v) := by
  induction fs with
  | nil => rfl
  | cons f fs ih =>
    by_cases hk : f.1 = k
    · simp [ofFields, put, Fields.put, hk]
    · have hrest := ih
      simp only [ofFields, List.map_cons, put, Fields.put, Value.same_text] at hrest ⊢
      rw [beq_eq_false_iff_ne.mpr hk, if_neg Bool.false_ne_true, if_neg Bool.false_ne_true, hrest]
      rfl

theorem update_ofFields (fs gs : Fields) :
    (ofFields fs).update (ofFields gs) = ofFields (fs.update gs) := by
  induction gs generalizing fs with
  | nil => rfl
  | cons g gs ih =>
    refine Eq.trans ?_ (ih (fs.put g.1 g.2))
    rw [← put_ofFields]
    rfl

theorem fields_ofFields (fs : Fields) : (ofFields fs).fields = Fields.ofPairs fs := by
  rw [fields, ofFields, List.map_map]
  congr 1
  exact List.map_id fs

end Pairs

/-- a section that, if it is there, is an object, whose keys differ -/
def IsObjectIfAny (o : Option Value) : Prop := ∀ v ∈ o, ∃ s, v = .object s ∧ (s.map (·.1)).Nodup

instance (o : Option Value) : Decidable (IsObjectIfAny o) :=
  match o with
  | none => isTrue fun _ h => nomatch h
  | some (.object s) =>
    decidable_of_iff (s.map (·.1)).Nodup
      ⟨fun hs _ h => ⟨s, (Option.some.inj h).symm, hs⟩, fun h =>
        (h _ rfl).elim fun _ hs => Value.object.inj hs.1 ▸ hs.2⟩
  | some .null | some (.bool _) | some (.int _) | some (.float _) | some (.text _)
  | some (.list _) => isFalse fun h => (h _ rfl).elim fun _ hs => nomatch hs.1

/-- a configuration or a profile each section of which, if it is there, is an object -/
def HasSections (fs : Fields) : Prop := ∀ key ∈ mergedKeys, IsObjectIfAny (fs.get? key)

instance (fs : Fields) : Decidable (HasSections fs) :=
  inferInstanceAs (Decidable (∀ key ∈ mergedKeys, IsObjectIfAny (fs.get? key)))

/-- the fields of a section; none if it is not there -/
def sectionFields : Option Value → Fields
  | some (.object s) => s
  | _ => []

theorem nodup_sectionFields {o : Option Value} (h : IsObjectIfAny o) :
    ((sectionFields o).map (·.1)).Nodup := by
  cases o with
  | none => exact List.nodup_nil
  | some v =>
    obtain ⟨s, rfl, hs⟩ := h v rfl
    exact hs

/-! ## profiles as updates -/

/-- a value that takes the place of another -/
def replacing (_ : Option Value) (v : Value) : Value := v

/-- a section that is updated with another -/
def updating (old : Option Value) (v : Value) : Value :=
  .object ((sectionFields old).update (sectionFields (some v)))

/-- what a profile has under a key, put together with what the configuration has there -/
def withKey (f : Option Value → Value → Value) (p cfg : Fields) (key : String) : Fields :=
  match p.get? key with
  | some v => cfg.put key (f (cfg.get? key) v)
  | none => cfg

/-- a configuration with the settings of a profile that has sections -/
def merged (cfg p : Fields) : Fields :=
  mergedKeys.foldl (withKey updating p) (replacedKeys.foldl (withKey replacing p) cfg)

section

variable {f : Option Value → Value → Value} {cfg p q : Fields} {key k : String}

theorem get?_withKey (f : Option Value → Value → Value) (p cfg : Fields) (key k : String) :
    (withKey f p cfg key).get? k =
      if key = k then ((p.get? k).map (f (cfg.get? k))).or (cfg.get? k) else cfg.get? k := by
  rw [withKey]
  by_cases hk : key = k
  · rw [if_pos hk, ← hk]
    cases p.get? key with
    | none => rfl
    | some v => exact Fields.get?_put_self _ _ _
  · rw [if_neg hk]
    cases p.get? key with
    | none => rfl
    | some v => exact (Fields.get?_put _ _ _ _).trans (if_neg hk)

/-- keys that differ are put together independently of each other -/
theorem get?_foldl_withKey {keys : List String} (hkeys : keys.Nodup) (cfg : Fields) (k : String) :
    (keys.foldl (withKey f p) cfg).get? k =
      if k ∈ keys then ((p.get? k).map (f (cfg.get? k))).or (cfg.get? k) else cfg.get? k := by
  induction keys generalizing cfg with
  | nil => rfl
  | cons key keys ih =>
    obtain ⟨hnew, hkeys⟩ := List.nodup_cons.mp hkeys
    rw [List.foldl_cons, ih hkeys, get?_withKey]
    by_cases hk : key = k
    · have hmem : k ∈ key :: keys := List.mem_cons.mpr (Or.inl hk.symm)
      rw [if_neg (hk ▸ hnew), if_pos hk, if_pos hmem]
    · rw [if_neg hk]
      exact if_congr (List.mem_cons.trans (or_iff_right (Ne.symm hk))).symm rfl rfl

theorem get?_merged (cfg p : Fields) (k : String) :
    (merged cfg p).get? k =
      if k ∈ mergedKeys then ((p.get? k).map (updating (cfg.get? k))).or (cfg.get? k)
      else if k ∈ replacedKeys then (p.get? k).or (cfg.get? k)
      else cfg.get? k := by
  have hapart : ∀ key ∈ mergedKeys, key ∉ replacedKeys := by decide
  have hreplacing (o : Option Value) : o.map (replacing (cfg.get? k)) = o := by cases o <;> rfl
  rw [merged, get?_foldl_withKey (by decide), get?_foldl_withKey (by decide), hreplacing]
  by_cases hk : k ∈ mergedKeys
  · rw [if_pos hk, if_pos hk, if_neg (hapart k hk)]
  · rw [if_neg hk, if_neg hk]

/-! ## what merging leaves -/

theorem isObjectIfAny_updating {old : Option Value} (h : IsObjectIfAny old) (new : Option Value) :
    IsObjectIfAny ((new.map (updating old)).or old) := by
  cases new with
  | none => exact h
  | some v =>
    rintro _ ⟨⟩
    exact ⟨_, rfl, Fields.nodup_update (nodup_sectionFields h) _⟩

/-- a configuration with sections has sections after each setting, -/
theorem HasSections.withKey_replacing (hcfg : HasSections cfg) (hkey : key ∈ replacedKeys)
    (p : Fields) : HasSections (withKey replacing p cfg key) := by
  have hapart : ∀ key ∈ mergedKeys, key ∉ replacedKeys := by decide
  intro k hk
  have hne : key ≠ k := fun h => hapart k hk (h ▸ hkey)
  rw [get?_withKey, if_neg hne]
  exact hcfg k hk

/-- after each section, -/
theorem HasSections.withKey_updating (hcfg : HasSections cfg) (p : Fields) (key : String) :
    HasSections (withKey updating p cfg key) := by
  intro k hk
  rw [get?_withKey]
  split
  · exact isObjectIfAny_updating (hcfg k hk) _
  · exact hcfg k hk

/-- and so after all of them -/
theorem HasSections.merged (hcfg : HasSections cfg) (p : Fields) : HasSections (merged cfg p) := by
  intro key hkey
  rw [get?_merged, if_pos hkey]
  exact isObjectIfAny_updating (hcfg key hkey) _

theorem replaceKey_eq (p cfg : Fields) (key : String) :
    replaceKey (.object p) cfg key = .ok (withKey replacing p cfg key) := by
  have hhas : Fields.has p key = (p.get? key).isSome := (Fields.isSome_get? p key).symm
  rw [replaceKey, Value.mentions, Value.at, withKey, hhas]
  cases p.get? key <;> rfl

theorem mergeKey_eq (hcfg : IsObjectIfAny (cfg.get? key)) (hp : IsObjectIfAny (p.get? key)) :
    mergeKey (.object p) cfg key = .ok (withKey updating p cfg key) := by
  rw [mergeKey, mergedSection_object, withKey]
  cases hget : p.get? key with
  | none => rfl
  | some v =>
    obtain ⟨new, rfl, -⟩ := hp v hget
    have hold : (cfg.getD key (.object [])).pairs =
        .ok (Pairs.ofFields (sectionFields (cfg.get? key))) := by
      rw [Fields.getD]
      cases hcfgget : cfg.get? key with
      | none => rfl
      | some w =>
        obtain ⟨old, rfl, -⟩ := hcfg w hcfgget
        rfl
    have hnodup := nodup_sectionFields hcfg
    have hcopy : Fields.update [] (sectionFields (cfg.get? key)) = sectionFields (cfg.get? key) :=
      Fields.ofPairs_of_nodup hnodup
    have hfields : (Pairs.update (Pairs.update [] (Pairs.ofFields (sectionFields (cfg.get? key))))
        (Pairs.ofFields new)).fields = (sectionFields (cfg.get? key)).update new := by
      rw [show ([] : Pairs) = Pairs.ofFields [] from rfl, Pairs.update_ofFields,
        Pairs.update_ofFields, Pairs.fields_ofFields, hcopy,
        Fields.ofPairs_of_nodup (Fields.nodup_update hnodup new)]
    rw [hold]
    exact congrArg (fun s => Except.ok (cfg.put key (.object s))) hfields

theorem mergeProfile_eq (hcfg : HasSections cfg) (hp : HasSections p) :
    mergeProfile cfg (.object p) = .ok (merged cfg p) := by
  have hreplaced (keys : List String) (cfg : Fields) :
      keys.foldlM (replaceKey (.object p)) cfg = .ok (keys.foldl (withKey replacing p) cfg) := by
    induction keys generalizing cfg with
    | nil => rfl
    | cons key keys ih =>
      rw [List.foldlM_cons, replaceKey_eq]
      exact ih _
  -- each section that is merged leaves the others as objects
  have hsections {keys : List String} (hkeys : ∀ key ∈ keys, key ∈ mergedKeys) {cfg : Fields}
      (hcfg : HasSections cfg) :
      keys.foldlM (mergeKey (.object p)) cfg = .ok (keys.foldl (withKey updating p) cfg) := by
    induction keys generalizing cfg with
    | nil => rfl
    | cons key keys ih =>
      obtain ⟨hkey, hkeys⟩ := List.forall_mem_cons.mp hkeys
      rw [List.foldlM_cons, mergeKey_eq (hcfg key hkey) (hp key hkey)]
      exact ih hkeys (hcfg.withKey_updating p key)
  have hapart : ∀ key ∈ mergedKeys, key ∉ replacedKeys := by decide
  rw [mergeProfile, hreplaced]
  refine hsections (fun key hkey => hkey) fun key hkey => ?_
  rw [get?_foldl_withKey (by decide), if_neg (hapart key hkey)]
  exact hcfg key hkey

/-- a merged section: the values of the profile, and under other keys those of the configuration -/
theorem get?_merged_section (hcfg : IsObjectIfAny (cfg.get? key)) (hp : IsObjectIfAny (p.get? key))
    (hkey : key ∈ mergedKeys) :
    (p.get? key = none ∧ cfg.get? key = none ∧ (merged cfg p).get? key = none) ∨
      ((p.get? key).isSome ∨ (cfg.get? key).isSome) ∧
      ∃ s : Fields, (merged cfg p).get? key = some (.object s) ∧ ∀ k, s.get? k =
        ((sectionFields (p.get? key)).get? k).or ((sectionFields (cfg.get? key)).get? k) := by
  rw [get?_merged, if_pos hkey]
  have hnodup := nodup_sectionFields hp
  cases hnew : p.get? key with
  | some v =>
    rw [hnew] at hnodup
    exact Or.inr ⟨Or.inl rfl, _, rfl, Fields.get?_update hnodup _⟩
  | none =>
    cases hold : cfg.get? key with
    | none => exact Or.inl ⟨rfl, rfl, rfl⟩
    | some v =>
      obtain ⟨s, rfl, -⟩ := hcfg v hold
      exact Or.inr ⟨Or.inr rfl, s, rfl, fun k => rfl⟩

/-! ## profiles merged one after the other -/

theorem withKey_eq_self (h : ∀ v, p.get? key = some v → cfg.get? key = some (f (cfg.get? key) v)) :
    withKey f p cfg key = cfg := by
  rw [withKey]
  cases hget : p.get? key with
  | none => rfl
  | some v => exact Fields.put_of_get? (h v hget)

theorem updating_updating (hp : IsObjectIfAny (p.get? key)) (old : Option Value) {v : Value}
    (hv : p.get? key = some v) : updating (some (updating old v)) v = updating old v := by
  have hnodup := nodup_sectionFields hp
  rw [hv] at hnodup
  exact congrArg Value.object (Fields.update_update_self hnodup _)

/-- a profile that is merged twice is merged once -/
theorem merged_idem (hp : HasSections p) (cfg : Fields) : merged (merged cfg p) p = merged cfg p := by
  have hfold {f : Option Value → Value → Value} {keys : List String}
      (h : ∀ key ∈ keys, withKey f p (merged cfg p) key = merged cfg p) :
      keys.foldl (withKey f p) (merged cfg p) = merged cfg p := by
    induction keys with
    | nil => rfl
    | cons key keys ih =>
      obtain ⟨hkey, hkeys⟩ := List.forall_mem_cons.mp h
      rw [List.foldl_cons, hkey, ih hkeys]
  have hapart : ∀ key ∈ replacedKeys, key ∉ mergedKeys := by decide
  have hreplaced : replacedKeys.foldl (withKey replacing p) (merged cfg p) = merged cfg p := by
    refine hfold fun key hkey => withKey_eq_self fun v hv => ?_
    rw [get?_merged, if_neg (hapart key hkey), if_pos hkey, hv]
    rfl
  rw [merged, hreplaced]
  refine hfold fun key hkey => withKey_eq_self fun v hv => ?_
  have hget : (merged cfg p).get? key = some (updating (cfg.get? key) v) := by
    rw [get?_merged, if_pos hkey, hv]
    rfl
  rw [hget, updating_updating (hp key hkey) _ hv]

/-- two profiles merged one after the other are one profile, the second already merged into the first -/
theorem get?_merged_merged (hp : HasSections p) (hq : HasSections q) (cfg : Fields) (k : String) :
    (merged (merged cfg p) q).get? k = (merged cfg (merged p q)).get? k := by
  simp only [get?_merged]
  by_cases hk : k ∈ mergedKeys
  · have hnodup := nodup_sectionFields (hp k hk)
    simp only [if_pos hk]
    cases hget : q.get? k with
    | none => rfl
    | some w =>
      obtain ⟨new, rfl, -⟩ := hq k hk w hget
      cases hmiddle : p.get? k with
      | none =>
        have hempty : (([] : Fields).map (·.1)).Nodup := List.nodup_nil
        exact congrArg (fun s => some (Value.object s)) (Fields.update_assoc hempty _ new).symm
      | some v =>
        rw [hmiddle] at hnodup
        exact congrArg (fun s => some (Value.object s)) (Fields.update_assoc hnodup _ new).symm
  · simp only [if_neg hk]
    by_cases hreplaced : k ∈ replacedKeys
    · simp only [if_pos hreplaced, Option.or_assoc]
    · simp only [if_neg hreplaced]

end

end Debate
