import Debate.Proofs.Composing

/-!
# Profiles and configurations in memory

A configuration in memory is a dictionary that refers to other dictionaries, which a profile and the
merged configuration may share. Merging copies the configuration and every section that it changes,
and writes to the copies only; so every dictionary that was in memory is left as it was, however much
of it is shared.

* `Held`, `Memory`     dictionaries that refer to each other by number;
* `Shows`              the value that is read through a dictionary;
* `InMemory.merge`     a profile merged by copying and writing dictionaries;
* `Building`           what holds while it is merged;
* `InMemory.merge_eq`  nothing that was in memory is written, and the new dictionary shows `merged`.
-/

namespace Debate

/-- what a dictionary in memory holds under a key: another dictionary, by its number, or a value that
is none -/
inductive Held where
  | value (v : Value)
  | ref (r : Nat)
deriving DecidableEq

/-- a dictionary in memory -/
abbrev Dictionary := List (String × Held)

/-- dictionaries by their number -/
abbrev Memory := List Dictionary

namespace Dictionary

/-- what is held under a key -/
def get? (d : Dictionary) (key : String) : Option Held := (d.find? fun x => x.1 == key).map (·.2)

/-- a key that holds something: in the place of the key if it is present, otherwise at the end -/
def put : Dictionary → String → Held → Dictionary
  | [], key, x => [(key, x)]
  | y :: d, key, x => if y.1 == key then (key, x) :: d else y :: put d key x

/-- all keys of a dictionary put into another -/
def update (d new : Dictionary) : Dictionary := new.foldl (fun d x => put d x.1 x.2) d

end Dictionary

/-! ## merging by copying and writing -/

/-- a computation with dictionaries in memory, which gives nothing if it fails -/
abbrev InMemory := StateT Memory Option

namespace InMemory

/-- the dictionary of a number -/
def fetch (r : Nat) : InMemory Dictionary := fun m => m[r]?.map fun d => (d, m)

/-- the dictionary that a key holds; only dictionaries are merged here -/
def fetchHeld : Held → InMemory Dictionary
  | .ref r => fetch r
  | .value _ => failure

/-- a new dictionary -/
def create (d : Dictionary) : InMemory Nat := fun m => some (m.length, m ++ [d])

/-- a key of a dictionary, written -/
def write (r : Nat) (key : String) (x : Held) : InMemory Unit := fun m =>
  m[r]?.map fun d => ((), m.set r (d.put key x))

/-- a setting of a profile written in the place of another -/
def replaceKey (profile target : Nat) (key : String) : InMemory Unit := do
  match (← fetch profile).get? key with
  | some x => write target key x
  | none => return ()

/-- a copy of the dictionary that a key holds, empty if it holds nothing -/
def copyHeld : Option Held → InMemory Nat
  | some x => do create (← fetchHeld x)
  | none => create []

/-- a section of a profile written into a copy of that of the configuration -/
def mergeKey (profile target : Nat) (key : String) : InMemory Unit := do
  match (← fetch profile).get? key with
  | some x =>
    let copy ← copyHeld ((← fetch target).get? key)
    (← fetchHeld x).forM fun y => write copy y.1 y.2
    write target key (.ref copy)
  | none => return ()

/-- a profile merged into a copy of a configuration -/
def merge (cfg profile : Nat) : InMemory Nat := do
  let target ← create (← fetch cfg)
  replacedKeys.forM (replaceKey profile target)
  mergedKeys.forM (mergeKey profile target)
  return target

end InMemory

/-! ## what dictionaries show -/

/-- a dictionary that has the keys of an object, each with something for its value -/
def Pointwise (R : Held → Value → Prop) : Dictionary → Fields → Prop :=
  List.Forall₂ fun x f => x.1 = f.1 ∧ R x.2 f.2

mutual

/-- the value that is read where something is held -/
inductive Shows (m : Memory) : Held → Value → Prop
  | value {v : Value} (hv : ∀ fs, v ≠ .object fs) : Shows m (.value v) v
  | ref {r : Nat} {d : Dictionary} {fs : Fields} (hd : m[r]? = some d) (hfs : ShowsAll m d fs) :
      Shows m (.ref r) (.object fs)

/-- the fields that are read in a dictionary -/
inductive ShowsAll (m : Memory) : Dictionary → Fields → Prop
  | nil : ShowsAll m [] []
  | cons {k : String} {x : Held} {v : Value} {d : Dictionary} {fs : Fields} (hx : Shows m x v)
      (hd : ShowsAll m d fs) : ShowsAll m ((k, x) :: d) ((k, v) :: fs)

end

section

variable {R S : Held → Value → Prop} {m m' : Memory} {d new : Dictionary} {fs gs : Fields}
  {key : String} {x : Held} {v : Value}

theorem Memory.getElem?_mono (hm : m <+: m') {r : Nat} (hd : m[r]? = some d) : m'[r]? = some d := by
  obtain ⟨new, rfl⟩ := hm
  obtain ⟨hr, -⟩ := List.getElem?_eq_some_iff.mp hd
  rw [List.getElem?_append_left hr, hd]

theorem showsAll_iff : ShowsAll m d fs ↔ Pointwise (Shows m) d fs := by
  constructor
  · intro h
    induction d generalizing fs with
    | nil =>
      cases h
      exact .nil
    | cons y d ih =>
      cases h with
      | cons hx hd => exact .cons ⟨rfl, hx⟩ (ih hd)
  · intro h
    induction h with
    | nil => exact .nil
    | @cons y f d fs hy _ ih =>
      obtain ⟨k, x⟩ := y
      obtain ⟨k', v⟩ := f
      obtain ⟨rfl, hx⟩ := hy
      exact .cons hx ih

/-- what shows an object is a dictionary -/
theorem shows_object_iff :
    Shows m x (.object fs) ↔ ∃ r d, x = .ref r ∧ m[r]? = some d ∧ Pointwise (Shows m) d fs := by
  constructor
  · intro h
    cases h with
    | value hv => exact absurd rfl (hv fs)
    | ref hd hfs => exact ⟨_, _, rfl, hd, showsAll_iff.mp hfs⟩
  · rintro ⟨r, d, rfl, hd, hfs⟩
    exact .ref hd (showsAll_iff.mpr hfs)

mutual

/-- new dictionaries change nothing that is read -/
theorem Shows.mono (hm : m <+: m') {x : Held} {v : Value} : Shows m x v → Shows m' x v
  | .value hv => .value hv
  | .ref hd hfs => .ref (Memory.getElem?_mono hm hd) (hfs.mono hm)

theorem ShowsAll.mono (hm : m <+: m') {d : Dictionary} {fs : Fields} :
    ShowsAll m d fs → ShowsAll m' d fs
  | .nil => .nil
  | .cons hx hd => .cons (hx.mono hm) (hd.mono hm)

end

theorem Pointwise.get? (h : Pointwise R d fs) (key : String) :
    Option.Rel R (d.get? key) (fs.get? key) := by
  induction h with
  | nil => exact .none
  | @cons y f d fs hy _ ih =>
    rw [Fields.get?_cons, Dictionary.get?, List.find?_cons, hy.1]
    by_cases hkey : f.1 = key
    · rw [if_pos hkey, beq_iff_eq.mpr hkey]
      exact .some hy.2
    · rw [if_neg hkey, beq_eq_false_iff_ne.mpr hkey]
      exact ih

theorem Pointwise.put (h : Pointwise R d fs) (key : String) (hx : R x v) :
    Pointwise R (d.put key x) (fs.put key v) := by
  induction h with
  | nil => exact .cons ⟨rfl, hx⟩ .nil
  | @cons y f d fs hy hrest ih =>
    rw [Dictionary.put, Fields.put, hy.1]
    split
    · exact .cons ⟨rfl, hx⟩ hrest
    · exact .cons hy ih

theorem Pointwise.update (h : Pointwise R d fs) (hnew : Pointwise R new gs) :
    Pointwise R (d.update new) (fs.update gs) := by
  induction hnew generalizing d fs with
  | nil => exact h
  | @cons y g new gs hy _ ih =>
    refine ih (d := d.put y.1 y.2) ?_
    rw [hy.1]
    exact h.put g.1 hy.2

theorem Pointwise.imp (h : ∀ x v, R x v → S x v) (hd : Pointwise R d fs) : Pointwise S d fs :=
  List.Forall₂.imp (fun x f hx => ⟨hx.1, h x.2 f.2 hx.2⟩) hd

end

/-! ## a profile while it is merged -/

/-- what is held shows a value with the dictionaries there were at first, or is a new dictionary, after
the one that is built, whose fields show theirs so -/
def ReadsFrom (m₀ m : Memory) (x : Held) (v : Value) : Prop :=
  Shows m₀ x v ∨ ∃ r d fs, x = .ref r ∧ v = .object fs ∧ m₀.length < r ∧ m[r]? = some d ∧
    Pointwise (Shows m₀) d fs

/-- the first dictionary after those that there were at first shows a configuration with sections, and
those are as they were -/
structure Building (m₀ m : Memory) (cfg : Fields) : Prop where
  kept : m₀ <+: m
  target : ∃ d, m[m₀.length]? = some d ∧ Pointwise (ReadsFrom m₀ m) d cfg
  sections : HasSections cfg

section

variable {m₀ m : Memory} {d : Dictionary} {fs cfg p : Fields} {key : String} {x : Held} {v : Value}

/-- a section that is read has fields that show what they showed at first -/
theorem ReadsFrom.exists_fields (hm : m₀ <+: m) (h : ReadsFrom m₀ m x (.object fs)) :
    ∃ r d, x = .ref r ∧ m[r]? = some d ∧ Pointwise (Shows m₀) d fs := by
  rcases h with h | ⟨r, d, fs', rfl, hfs, -, hd, hshows⟩
  · obtain ⟨r, d, rfl, hd, hshows⟩ := shows_object_iff.mp h
    exact ⟨r, d, rfl, Memory.getElem?_mono hm hd, hshows⟩
  · cases hfs
    exact ⟨r, d, rfl, hd, hshows⟩

theorem ReadsFrom.shows (hm : m₀ <+: m) (h : ReadsFrom m₀ m x v) : Shows m x v := by
  rcases h with h | ⟨r, d, fs, rfl, rfl, -, hd, hshows⟩
  · exact h.mono hm
  · exact shows_object_iff.mpr ⟨r, d, rfl, hd, hshows.imp fun x v hx => hx.mono hm⟩

/-- a new dictionary changes nothing that is read -/
theorem ReadsFrom.append (h : ReadsFrom m₀ m x v) (new : Dictionary) :
    ReadsFrom m₀ (m ++ [new]) x v := by
  refine h.imp_right ?_
  rintro ⟨r, d, fs, rfl, rfl, hr, hd, hshows⟩
  exact ⟨r, d, fs, rfl, rfl, hr, Memory.getElem?_mono (List.prefix_append m [new]) hd, hshows⟩

/-- the dictionary that is built is not read through -/
theorem ReadsFrom.set (h : ReadsFrom m₀ m x v) (new : Dictionary) :
    ReadsFrom m₀ (m.set m₀.length new) x v := by
  refine h.imp_right ?_
  rintro ⟨r, d, fs, rfl, rfl, hr, hd, hshows⟩
  refine ⟨r, d, fs, rfl, rfl, hr, ?_, hshows⟩
  rw [List.getElem?_set_ne (Nat.ne_of_lt hr), hd]

/-- the dictionary that is built shows its configuration -/
theorem Building.shows (h : Building m₀ m cfg) : Shows m (.ref m₀.length) (.object cfg) := by
  obtain ⟨d, hd, hreads⟩ := h.target
  exact shows_object_iff.mpr ⟨_, d, rfl, hd, hreads.imp fun x v hx => hx.shows h.kept⟩

theorem Building.append (h : Building m₀ m cfg) (new : Dictionary) :
    Building m₀ (m ++ [new]) cfg := by
  obtain ⟨d, hd, hreads⟩ := h.target
  have hmore : m <+: m ++ [new] := List.prefix_append m [new]
  exact ⟨h.kept.trans hmore, ⟨d, Memory.getElem?_mono hmore hd,
    hreads.imp fun x v hx => hx.append new⟩, h.sections⟩

namespace InMemory

/-! ### one operation after the other -/

theorem bind_eq {α β : Type} {f : InMemory α} {g : α → InMemory β} {m m' : Memory} {a : α}
    (h : f m = some (a, m')) : (f >>= g) m = g a m' := by
  change (f m).bind (fun r => g r.1 r.2) = g a m'
  rw [h]
  rfl

theorem fetch_eq {r : Nat} (h : m[r]? = some d) : fetch r m = some (d, m) := by
  rw [fetch, h]
  rfl

theorem create_eq (d : Dictionary) (m : Memory) : create d m = some (m.length, m ++ [d]) := rfl

theorem write_eq {r : Nat} (h : m[r]? = some d) (key : String) (x : Held) :
    write r key x m = some ((), m.set r (d.put key x)) := by
  rw [write, h]
  rfl

/-- the last dictionary, written key by key -/
theorem forM_write_eq (new d : Dictionary) (m : Memory) :
    (new.forM fun y => write m.length y.1 y.2) (m ++ [d]) = some ((), m ++ [d.update new]) := by
  induction new generalizing d with
  | nil => rfl
  | cons y new ih =>
    have hlast : (m ++ [d])[m.length]? = some d := List.getElem?_concat_length
    have hset : (m ++ [d]).set m.length (d.put y.1 y.2) = m ++ [d.put y.1 y.2] := by
      rw [List.set_append_right _ _ Nat.le.refl, Nat.sub_self]
      rfl
    rw [List.forM, bind_eq (write_eq hlast y.1 y.2), hset, ih]
    rfl

/-- the dictionary that is built, with something new under a key -/
theorem write_target (h : Building m₀ m cfg) (hx : ReadsFrom m₀ m x v)
    (hsections : HasSections (cfg.put key v)) :
    ∃ m', write m₀.length key x m = some ((), m') ∧ Building m₀ m' (cfg.put key v) := by
  obtain ⟨d, hd, hreads⟩ := h.target
  refine ⟨_, write_eq hd key x, ?_, ⟨d.put key x, ?_, ?_⟩, hsections⟩
  · obtain ⟨more, rfl⟩ := h.kept
    rw [List.set_append_right _ _ Nat.le.refl]
    exact List.prefix_append _ _
  · obtain ⟨hlength, -⟩ := List.getElem?_eq_some_iff.mp hd
    exact List.getElem?_set_self hlength
  · exact (hreads.put key hx).imp fun x v hx => hx.set _

/-! ### one key after the other -/

/-- a setting of the profile, written or not, leaves what it leaves of a value -/
theorem replaceKey_builds {profile : Nat} (hp : Shows m₀ (.ref profile) (.object p))
    (hkey : key ∈ replacedKeys) (h : Building m₀ m cfg) :
    ∃ m', replaceKey profile m₀.length key m = some ((), m') ∧
      Building m₀ m' (withKey replacing p cfg key) := by
  have hsections := h.sections.withKey_replacing hkey p
  obtain ⟨_, d, ⟨⟩, hd, hshows⟩ := shows_object_iff.mp hp
  rw [replaceKey, bind_eq (fetch_eq (Memory.getElem?_mono h.kept hd))]
  rw [withKey] at hsections ⊢
  have hget := hshows.get? key
  revert hget hsections
  generalize d.get? key = x, p.get? key = v
  rintro hsections (⟨hx⟩ | _)
  · exact write_target h (Or.inl hx) hsections
  · exact ⟨m, rfl, h⟩

theorem copyHeld_eq {old : Option Held} {o : Option Value} (hm : m₀ <+: m)
    (h : Option.Rel (ReadsFrom m₀ m) old o) (ho : IsObjectIfAny o) :
    ∃ d, copyHeld old m = some (m.length, m ++ [d]) ∧ Pointwise (Shows m₀) d (sectionFields o) := by
  cases h with
  | none => exact ⟨[], rfl, .nil⟩
  | some hx =>
    obtain ⟨fs, rfl, -⟩ := ho _ rfl
    obtain ⟨r, d, rfl, hd, hshows⟩ := hx.exists_fields hm
    exact ⟨d, bind_eq (fetch_eq hd), hshows⟩

/-- a section of the profile, merged into a copy, leaves what it leaves of a value -/
theorem mergeKey_builds {profile : Nat} (hp : Shows m₀ (.ref profile) (.object p))
    (hsection : HasSections p) (hkey : key ∈ mergedKeys) (h : Building m₀ m cfg) :
    ∃ m', mergeKey profile m₀.length key m = some ((), m') ∧
      Building m₀ m' (withKey updating p cfg key) := by
  have hsections := h.sections.withKey_updating p key
  obtain ⟨_, d, ⟨⟩, hd, hshows⟩ := shows_object_iff.mp hp
  obtain ⟨target, htarget, hreads⟩ := h.target
  obtain ⟨copied, hcopy, hcopied⟩ :=
    copyHeld_eq h.kept (hreads.get? key) (h.sections key hkey)
  rw [mergeKey, bind_eq (fetch_eq (Memory.getElem?_mono h.kept hd))]
  rw [withKey] at hsections ⊢
  have hget := hshows.get? key
  have hobject := hsection key hkey
  revert hget hsections hobject
  generalize d.get? key = x, p.get? key = v
  rintro hsections (⟨hx⟩ | _) hobject
  · obtain ⟨gs, rfl, -⟩ := hobject _ rfl
    obtain ⟨r, new, rfl, hnew, hshows⟩ := shows_object_iff.mp hx
    have hfetch : fetchHeld (.ref r) (m ++ [copied]) = some (new, m ++ [copied]) :=
      fetch_eq (Memory.getElem?_mono (h.kept.trans (List.prefix_append m [copied])) hnew)
    have hcopyReads : ReadsFrom m₀ (m ++ [copied.update new]) (.ref m.length)
        (updating (cfg.get? key) (.object gs)) := by
      obtain ⟨hlength, -⟩ := List.getElem?_eq_some_iff.mp htarget
      exact Or.inr ⟨m.length, copied.update new, _, rfl, rfl, hlength, List.getElem?_concat_length,
        hcopied.update hshows⟩
    obtain ⟨m', hwrite, hbuilding⟩ :=
      write_target (h.append (copied.update new)) hcopyReads hsections
    refine ⟨m', ?_, hbuilding⟩
    dsimp only
    rw [bind_eq (fetch_eq htarget), bind_eq hcopy, bind_eq hfetch, bind_eq (forM_write_eq new copied m),
      hwrite]
  · exact ⟨m, rfl, h⟩

theorem forM_builds {f : String → InMemory Unit} {g : Fields → String → Fields} {keys : List String}
    (hstep : ∀ key ∈ keys, ∀ m cfg, Building m₀ m cfg →
      ∃ m', f key m = some ((), m') ∧ Building m₀ m' (g cfg key))
    (h : Building m₀ m cfg) :
    ∃ m', keys.forM f m = some ((), m') ∧ Building m₀ m' (keys.foldl g cfg) := by
  induction keys generalizing m cfg with
  | nil => exact ⟨m, rfl, h⟩
  | cons key keys ih =>
    obtain ⟨hkey, hkeys⟩ := List.forall_mem_cons.mp hstep
    obtain ⟨m', hf, hbuilding⟩ := hkey m cfg h
    rw [List.forM, bind_eq hf]
    exact ih hkeys hbuilding

/-- a profile that is merged in memory leaves every dictionary as it was, and a new one that shows the
merged configuration -/
theorem merge_eq {c profile : Nat} (hc : Shows m₀ (.ref c) (.object cfg))
    (hp : Shows m₀ (.ref profile) (.object p)) (hcfg : HasSections cfg) (hsections : HasSections p) :
    ∃ m, merge c profile m₀ = some (m₀.length, m) ∧ m₀ <+: m ∧
      Shows m (.ref m₀.length) (.object (merged cfg p)) := by
  obtain ⟨_, d, ⟨⟩, hd, hshows⟩ := shows_object_iff.mp hc
  have hcopied : Building m₀ (m₀ ++ [d]) cfg := ⟨List.prefix_append m₀ [d],
    ⟨d, List.getElem?_concat_length, hshows.imp fun x v hx => Or.inl hx⟩, hcfg⟩
  have hreplace (key : String) (hkey : key ∈ replacedKeys) (m : Memory) (cfg : Fields)
      (h : Building m₀ m cfg) := replaceKey_builds hp hkey h
  have hmerge (key : String) (hkey : key ∈ mergedKeys) (m : Memory) (cfg : Fields)
      (h : Building m₀ m cfg) := mergeKey_builds hp hsections hkey h
  obtain ⟨m₁, hsettings, hbuilding₁⟩ := forM_builds hreplace hcopied
  obtain ⟨m₂, hmerged, hbuilding₂⟩ := forM_builds hmerge hbuilding₁
  refine ⟨m₂, ?_, hbuilding₂.kept, hbuilding₂.shows⟩
  rw [merge, bind_eq (fetch_eq hd), bind_eq (create_eq d m₀), bind_eq hsettings, bind_eq hmerged]
  rfl

end InMemory

/-! ## profiles compose -/

/-- A profile takes the place of the provider, the mode and the number of turns; each section has the
values of the profile, and under other keys those of the configuration; all other keys are the
configuration's. To merge a profile twice is to merge it once, and to merge two is to merge the first
with the second merged into it. In memory nothing that there was is written. -/
theorem profiles_compose (cfg p q : Fields) (hcfg : HasSections cfg)
    (hp : HasSections p) (hq : HasSections q) :
    ∃ both, mergeProfile cfg (.object p) = .ok both ∧
      (∀ key ∈ replacedKeys, both.get? key = (p.get? key).or (cfg.get? key)) ∧
      (∀ key ∈ mergedKeys,
        (p.get? key = none ∧ cfg.get? key = none ∧ both.get? key = none) ∨
        ((p.get? key).isSome ∨ (cfg.get? key).isSome) ∧ ∃ s : Fields, both.get? key = some (.object s) ∧
          ∀ k, s.get? k =
            ((sectionFields (p.get? key)).get? k).or ((sectionFields (cfg.get? key)).get? k)) ∧
      (∀ key, key ∉ replacedKeys → key ∉ mergedKeys → both.get? key = cfg.get? key) ∧
      mergeProfile both (.object p) = .ok both ∧
      (∃ profiles one other, mergeProfile p (.object q) = .ok profiles ∧
        mergeProfile both (.object q) = .ok one ∧ mergeProfile cfg (.object profiles) = .ok other ∧
        ∀ key, one.get? key = other.get? key) ∧
      ∀ (m : Memory) (c profile : Nat), Shows m (.ref c) (.object cfg) →
        Shows m (.ref profile) (.object p) →
        ∃ r m', InMemory.merge c profile m = some (r, m') ∧ m.length ≤ r ∧
          Shows m' (.ref r) (.object both) ∧ m <+: m' ∧ Shows m' (.ref c) (.object cfg) ∧
          Shows m' (.ref profile) (.object p) := by
  have hboth := hcfg.merged p
  have hapart : ∀ key ∈ replacedKeys, key ∉ mergedKeys := by decide
  refine ⟨merged cfg p, mergeProfile_eq hcfg hp, fun key hkey => ?_, fun key hkey => ?_,
    fun key hreplaced hmerged => ?_, ?_, ?_, fun m c profile hc hprofile => ?_⟩
  · rw [get?_merged, if_neg (hapart key hkey), if_pos hkey]
  · exact get?_merged_section (hcfg key hkey) (hp key hkey) hkey
  · rw [get?_merged, if_neg hmerged, if_neg hreplaced]
  · rw [mergeProfile_eq hboth hp, merged_idem hp]
  · exact ⟨merged p q, _, _, mergeProfile_eq hp hq, mergeProfile_eq hboth hq,
      mergeProfile_eq hcfg (hp.merged q), get?_merged_merged hp hq cfg⟩
  · obtain ⟨m', hmerge, hkept, hshows⟩ := InMemory.merge_eq hc hprofile hcfg hp
    exact ⟨_, m', hmerge, Nat.le.refl, hshows, hkept, hc.mono hkept, hprofile.mono hkept⟩

/-- a profile that shares its only section with the configuration -/
theorem profiles_compose_shared :
    ∃ both r m',
      mergeProfile
        [("provider", .text "gemini"), ("gemini", .object [("model", .text "pro")]), ("state_dir", .text "kept")]
        (.object [("provider", .text "ollama"), ("gemini", .object [("model", .text "pro")])]) = .ok both ∧
      both.get? "provider" = some (.text "ollama") ∧ both.get? "state_dir" = some (.text "kept") ∧
      InMemory.merge 0 1
        [[("provider", .value (.text "gemini")), ("gemini", .ref 2), ("state_dir", .value (.text "kept"))],
          [("provider", .value (.text "ollama")), ("gemini", .ref 2)],
          [("model", .value (.text "pro"))]] = some (r, m') ∧
      Shows m' (.ref r) (.object both) ∧ m'[2]? = some [("model", .value (.text "pro"))] := by
  have htext (m : Memory) (s : String) : Shows m (.value (.text s)) (.text s) :=
    .value (by simp)
  obtain ⟨both, hmerge, hset, -, hother, -, -, hmemory⟩ := profiles_compose
    [("provider", .text "gemini"), ("gemini", .object [("model", .text "pro")]),
      ("state_dir", .text "kept")]
    [("provider", .text "ollama"), ("gemini", .object [("model", .text "pro")])] []
    (by decide) (by decide) (by decide)
  obtain ⟨r, m', hin, -, hshows, hkept, -⟩ := hmemory
    [[("provider", .value (.text "gemini")), ("gemini", .ref 2), ("state_dir", .value (.text "kept"))],
      [("provider", .value (.text "ollama")), ("gemini", .ref 2)],
      [("model", .value (.text "pro"))]] 0 1
    (.ref rfl (.cons (htext _ _) (.cons (.ref rfl (.cons (htext _ _) .nil)) (.cons (htext _ _) .nil))))
    (.ref rfl (.cons (htext _ _) (.cons (.ref rfl (.cons (htext _ _) .nil)) .nil)))
  exact ⟨both, r, m', hmerge, (hset "provider" (by decide)).trans (by decide),
    (hother "state_dir" (by decide) (by decide)).trans (by decide), hin, hshows,
    Memory.getElem?_mono hkept rfl⟩

end

end Debate
