import Debate.Configuration.Library
import Debate.Configuration.Merge

/-!
# The configuration file

A configuration is an object in a file; a missing file, or one that holds no value, counts as an empty
object. It names the state directory, and perhaps a directory that is shared. A profile changes the
settings, but not the directories.

* `Configured`        the settings as they were read, and the directories;
* `Configured.load`   reads them.
-/

namespace Debate

open Debate.Files

/-- settings as they were read, and the directories -/
structure Configured where
  cfg : Fields
  library : Library
  /-- the sections that have keys other than texts -/
  odd : List String := []
  deriving DecidableEq

namespace Configured

/-- the name of the file if none is given -/
def defaultName : String := "duet.config.json"

/-- a path in a configuration -/
def pathOf (v : Value) : Except Fault Path :=
  match v with
  | .text s => .ok (Path.ofString s)
  | v => .error (.unsupported ("argument should be a str or an os.PathLike object, not '" ++
      v.kind ++ "'"))

/-- the directory that is shared, if one is named -/
def sharedOf (home : String) (v : Value) : Except Fault (Option Path) := do
  if v.isVoid then return none
  match (← pathOf v).expandHome home with
  | some p => return some p
  | none => throw (.unsupported "Could not determine home directory.")

/-- a configuration with the settings of a profile that was loaded -/
def withProfile (c : Configured) (name : String) (profile : Value) : Loading Configured := do
  if profile.isVoid then return c
  Loading.log .info ("Loaded profile: " ++ name)
  let fs ← Loading.ofExcept profile.fields
  let description := fs.getD "description" .null
  if !description.isVoid then
    Loading.log .info ("  " ++ description.shown)
  let cfg ← Loading.ofExcept (mergeProfile c.cfg profile)
  return { c with cfg, odd := oddSections c.cfg profile }

/-- reads the configuration, with a profile if one is named -/
def load (home : String) (p : Path) (profile : Option String) : Loading Configured := do
  match ← Loading.readRecordOr p (.object []) with
  | .object cfg => do
    let state ← Loading.ofExcept (pathOf (Fields.getD cfg "state_dir" (.text ".duet")))
    let shared ← Loading.ofExcept (sharedOf home (Fields.getD cfg "global_dir" .null))
    let library : Library := { state, shared }
    match profile.filter fun s => !s.isEmpty with
    | none => return { cfg, library }
    | some name => do
      let v ← library.profile name
      withProfile { cfg, library } name v
  | _ => throw (.configuration ("Config " ++ p.text ++ " must contain a JSON object"))

end Configured

end Debate
