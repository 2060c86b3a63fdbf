import Debate.CommandLine.Switch
import Debate.Configuration.Configured
import Debate.Number.Numeral
import Debate.Provider.Selection
import Debate.Settings

/-!
# Arguments

The program starts a debate, retries the turn that failed, or lists models. What the command line says
takes precedence over the configuration.

* `Arguments`          what the command line asks for;
* `Arguments.read`     the arguments in the words of a command line;
* `Arguments.override` a configuration with what the arguments say.
-/

namespace Debate.CommandLine

open Debate.Number

/-- a debate that is asked for -/
structure Debating where
  request : String
  name : Option String
  mode : Option Mode
  turns : Option Int
  notepad : Option String
  image : Option String
  deriving DecidableEq

/-- what is asked for -/
inductive Errand where
  | run (d : Debating)
  | retry (name : String)
  | models
  deriving DecidableEq

/-- what the command line asks for -/
structure Arguments where
  /-- the file of the configuration -/
  config : String
  verbose : Bool
  profile : Option String
  provider : Option ProviderName
  errand : Errand
  deriving DecidableEq

namespace Arguments

/-! ## switches -/

/-- the switches in front of the errand -/
def general : Grammar where
  switches := [.helper, { key := "config", names := ["--config"] },
    { key := "verbose", names := ["--verbose", "-v"], shape := .flag }]

/-- the switch of a profile -/
def profileSwitch : Switch := { key := "profile", names := ["--profile", "-p"] }

/-- the switch of a provider -/
def providerSwitch : Switch := { key := "provider", names := ["--provider"] }

/-- the switch of a run -/
def nameSwitch : Switch := { key := "name", names := ["--name", "-n"] }

/-- the words of a debate -/
def runGrammar : Grammar where
  switches := [.helper, nameSwitch, profileSwitch, { key := "mode", names := ["--mode"] },
    { key := "turns", names := ["--turns"] }, providerSwitch,
    { key := "notepad", names := ["--notepad"] }, { key := "image", names := ["--image"] }]
  words := 1

/-- the words of a retry -/
def retryGrammar : Grammar where
  switches := [.helper, nameSwitch, profileSwitch, providerSwitch]

/-- the words of a list of models -/
def modelsGrammar : Grammar where
  switches := [.helper, profileSwitch, providerSwitch]

/-! ## reading -/

/-- a value that must be there -/
def required {α : Type} (v : Option α) : Except Refusal α :=
  match v with
  | some x => .ok x
  | none => .error .usage

/-- every value that a switch was given, the later ones last -/
def valuesOf (r : Read) (key : String) : List String :=
  (r.values.reverse.filter fun v => v.1 = key).map (·.2)

/-- each value of a switch must be readable, also one that does not count; nothing if the switch was
not used -/
def checked {α : Type} (read? : String → Option α) (r : Read) (key : String) :
    Except Refusal (Option α) := do
  return (← (valuesOf r key).mapM fun v => required (read? v)).getLast?

/-- the errand of a word, from what was read of the words after it -/
def errandOf (name : String) (mode : Option Mode) (turns : Option Int) (r : Read) :
    Except Refusal Errand := do
  match name with
  | "run" =>
    return .run {
      request := ← required r.words.head?
      name := r.value? "name"
      mode, turns
      notepad := r.value? "notepad"
      image := r.value? "image" }
  | "retry" => return .retry (← required (r.value? "name"))
  | _ => return .models

/-- the grammar of an errand -/
def grammarOf? (name : String) : Option Grammar :=
  match name with
  | "run" => some runGrammar
  | "retry" => some retryGrammar
  | "models" => some modelsGrammar
  | _ => none

/-- the arguments in the words of a command line -/
def read (words : List String) : Except Refusal Arguments := do
  let (front, rest) ← general.readUpTo words
  if front.help then throw .help
  let (name, words) ← required rest
  let r ← (← required (grammarOf? name)).read words
  let mode ← checked Mode.ofName? r "mode"
  let turns ← checked readInteger? r "turns"
  let provider ← checked ProviderName.ofName? r "provider"
  if r.help then throw .help
  let errand ← errandOf name mode turns r
  if front.surplus ∨ r.surplus then throw .usage
  return {
    config := (front.value? "config").getD Configured.defaultName
    verbose := (front.value? "verbose").isSome
    profile := r.value? "profile"
    provider
    errand }

/-! ## precedence -/

/-- a key with a value, if there is one -/
def putSome (cfg : Fields) (key : String) (v : Option Value) : Fields :=
  match v with
  | some v => cfg.put key v
  | none => cfg

/-- a configuration with what the arguments say -/
def override (a : Arguments) (cfg : Fields) : Fields :=
  let cfg := match a.errand with
    | .run d =>
      putSome (putSome cfg "mode" (d.mode.map fun m => .text m.name)) "max_turns"
        (d.turns.map .int)
    | _ => cfg
  putSome cfg "provider" (a.provider.map fun p => .text p.name)

example : (read ["run", "Go", "--nam=x", "--mo", "fixed"]).toOption.map (·.errand) =
    some (.run ⟨"Go", some "x", some .fixed, none, none, none⟩) := by decide +kernel

end Arguments

end Debate.CommandLine
