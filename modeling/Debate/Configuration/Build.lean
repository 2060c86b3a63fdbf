import Debate.Configuration.Configured
import Debate.Environment
import Debate.Number.Numeral
import Debate.Settings
import Debate.Value.Access

/-!
# Settings from a configuration

* `Settings.readMode`, `Settings.readTurns`   the mode and the number of turns;
* `Settings.buildProviders`   the settings of the providers;
* `Settings.resolvePersona`   the persona that a name stands for;
* `Settings.build`            the settings that a configuration describes.
-/

namespace Debate

open Debate.Number Debate.Text

namespace Settings

/-! ## mode and turns -/

/-- the mode -/
def readMode (v : Value) : Except Fault Mode :=
  match v.text?.bind Mode.ofName? with
  | some m => .ok m
  | none => .error (.configuration ("Invalid mode '" ++ v.shown ++ "': expected one of " ++
      ", ".intercalate (Mode.all.map Mode.name)))

/-- the number of turns: a number cut to an integer, a truth value as one or zero, or a numeral -/
def readTurns (v : Value) : Except Fault Int :=
  let bad : Except Fault Int := .error (.configuration ("Invalid max_turns: " ++ v.literal))
  match v with
  | .bool b => .ok (if b then 1 else 0)
  | .int n => .ok n
  | .float (.infinite _) => .error (.unsupported "cannot convert float infinity to integer")
  | .float x =>
    match x.truncate with
    | some n => .ok n
    | none => bad
  | .text s =>
    match readInteger? s with
    | some n => .ok n
    | none => bad
  | _ => bad

/-! ## sections -/

/-- a section of the configuration -/
def sectionOf (cfg : Fields) (key : String) : Except Fault Fields :=
  match (cfg.getD key .null).orElse (.object []) with
  | .object fs => .ok fs
  | _ => .error (.configuration ("Config section '" ++ key ++ "' must be an object"))

/-- texts in ascending order -/
def sortedTexts (ss : List String) : List String :=
  ss.mergeSort fun a b => !decide (b.toList < a.toList)

/-- the fields of a section that are known; a warning names the others, which have to be texts -/
def knownFields (odd : List String) (name : String) (keys : List String) (fs : Fields) :
    Loading Fields := do
  if odd.contains name then
    throw (.unsupported "'<' not supported between keys")
  let unknown := (fs.map (·.1)).filter fun k => !keys.contains k
  if !unknown.isEmpty then
    Loading.log .warning ("Ignoring unknown keys in '" ++ name ++ "': " ++
      ", ".intercalate (sortedTexts unknown))
  return fs.filter fun f => keys.contains f.1

/-- the known fields of a section of the configuration -/
def readSection (odd : List String) (cfg : Fields) (name : String) (keys : List String) :
    Loading Fields := do
  knownFields odd name keys (← Loading.ofExcept (sectionOf cfg name))

/-- the section of Ollama; the environment may name its address -/
def withHost (env : Environment) (fs : Fields) : Fields :=
  if (fs.getD "base_url" .null).isVoid ∧ env.getD "OLLAMA_HOST" ≠ "" then
    fs.put "base_url" (.text (env.getD "OLLAMA_HOST"))
  else fs

/-- the words of a text between blanks -/
def words (s : String) : List String :=
  ((s.toList.splitBy fun a b => isBlank a = isBlank b).filter fun w => !w.all isBlank).map
    String.ofList

/-- the section of the command; a command in one text is cut at its blanks -/
def withWords (fs : Fields) : Fields :=
  match fs.get? "cmd" with
  | some (.text s) => fs.put "cmd" (.list ((words s).map Value.text))
  | _ => fs

/-- the settings of the providers; some sections may have keys other than texts -/
def buildProviders (odd : List String) (cfg : Fields) (env : Environment) :
    Loading ProviderSettings := do
  let ollama := withHost env (← readSection odd cfg "ollama" OllamaSettings.keys)
  let command := withWords (← readSection odd cfg "command" CommandSettings.keys)
  let gemini ← readSection odd cfg "gemini" GeminiSettings.keys
  let openai ← readSection odd cfg "openai" OpenAISettings.keys
  return .ofSections (cfg.get? "provider") gemini openai ollama command

/-! ## personas -/

/-- a persona with what its document holds in place of what is built in -/
def withDocument (p : Persona) (d : Document) : Except Fault Persona := do
  let fs ← d.frontMatter.fields
  return {
    sender := p.sender
    name := fs.getD "name" p.name
    systemPrompt := if d.body = "" then p.systemPrompt else .text d.body
    turnCue := fs.getD "turn_cue" p.turnCue }

/-- the persona that a name stands for; the one that is built in if there is no name or no document -/
def resolvePersona (l : Library) (p : Persona) (name : Value) : Loading Persona := do
  if name.isVoid then return p
  let d ← l.persona name
  if d.frontMatter.isVoid ∧ d.body = "" then
    Loading.log .warning ("Persona '" ++ name.shown ++ "' not found, using built-in " ++ p.title)
    return p
  Loading.ofExcept (withDocument p d)

/-! ## all settings -/

/-- the settings that a configuration describes -/
def build (c : Configured) (env : Environment) : Loading Settings := do
  let cfg := c.cfg
  let l := c.library
  let base : Settings := {}
  let mode ← Loading.ofExcept (readMode (cfg.getD "mode" (.text base.mode.name)))
  let maxTurns ← Loading.ofExcept (readTurns (cfg.getD "max_turns" base.maxTurns))
  if mode = .fixed ∧ maxTurns < 1 then
    throw (.configuration ("max_turns must be at least 1 in fixed mode (got " ++ toString maxTurns ++
      ")"))
  let personas ← Loading.ofExcept (sectionOf cfg "personas")
  let agentA ← resolvePersona l base.agentA (personas.getD "agent_a" .null)
  let agentB ← resolvePersona l base.agentB (personas.getD "agent_b" .null)
  return { mode, maxTurns := .int maxTurns, agentA, agentB, providers := ← buildProviders c.odd cfg env }

end Settings

end Debate
