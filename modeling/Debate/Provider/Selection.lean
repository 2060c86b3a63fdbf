import Debate.Environment
import Debate.Fault
import Debate.Provider.Settings
import Debate.Text.Split
import Debate.Value.Shown

/-!
# Choosing a provider

A provider is configured when its settings, together with the environment, say where and how to
reach it. The provider that is asked for is taken if it is configured, otherwise the first of the
others that is. Nothing is sent before a provider is chosen.

* `ProviderName`               the four providers;
* `ProviderName.isConfigured`  whether a provider can be reached;
* `Provider`                   a provider with what it needs to be reached;
* `Provider.make`              the provider of a name;
* `Provider.select`            the provider that is chosen, and a warning if it is another one.
-/

namespace Debate

open Debate.Text

/-- the providers -/
inductive ProviderName where
  | gemini
  | openai
  | ollama
  | command
  deriving DecidableEq, Repr

namespace ProviderName

/-- the name in settings -/
def name : ProviderName → String
  | .gemini => "gemini"
  | .openai => "openai"
  | .ollama => "ollama"
  | .command => "command"

/-- the providers in the order in which they stand in for each other -/
def all : List ProviderName := [.gemini, .openai, .ollama, .command]

/-- the provider of a name -/
def ofName? (s : String) : Option ProviderName := all.find? fun p => p.name = s

theorem ofName?_name (p : ProviderName) : ofName? p.name = some p := by cases p <;> decide

end ProviderName

/-! ## keys -/

/-- the key for Gemini: from the settings, otherwise from the environment -/
def GeminiSettings.key (s : GeminiSettings) (env : Environment) : Value :=
  s.apiKey.orElse ((Value.text (env.getD "GEMINI_API_KEY")).orElse (.text (env.getD "API_KEY")))

/-- the key for an OpenAI service: from the settings, otherwise from the environment -/
def OpenAISettings.key (s : OpenAISettings) (env : Environment) : Value :=
  s.apiKey.orElse (.text (env.getD "OPENAI_API_KEY"))

/-- whether a provider can be reached; Gemini needs no key behind another address -/
def ProviderName.isConfigured (p : ProviderName) (s : ProviderSettings) (env : Environment) : Bool :=
  match p with
  | .gemini => !(s.gemini.key env).isVoid || !s.gemini.baseUrl.isVoid
  | .openai => !(s.openai.key env).isVoid && !s.openai.baseUrl.isVoid && !s.openai.model.isVoid
  | .ollama => !s.ollama.baseUrl.isVoid && !s.ollama.model.isVoid
  | .command => !s.command.cmd.isVoid

/-! ## providers -/

/-- a provider with what it needs to be reached -/
inductive Provider where
  | gemini (apiKey : Value) (baseUrl : String) (model : Value) (thinkingBudget : Option Value)
  | openai (apiKey : Value) (baseUrl : String) (model : Value)
  | ollama (baseUrl : String) (model : Value)
  | command (cmd timeout : Value)
  deriving DecidableEq

namespace Provider

/-- which provider it is -/
def name : Provider → ProviderName
  | .gemini .. => .gemini
  | .openai .. => .openai
  | .ollama .. => .ollama
  | .command .. => .command

/-- an address without slashes at its end -/
def trimSlashes (s : String) : String :=
  String.ofList (s.toList.reverse.dropWhile (· = '/')).reverse

/-- the address in settings -/
def address (v : Value) : Except Fault String :=
  match v with
  | .text s => .ok (trimSlashes s)
  | v => .error (.unsupported ("'" ++ v.kind ++ "' object has no attribute 'rstrip'"))

/-- the address of Gemini itself -/
def geminiAddress : String := "https://generativelanguage.googleapis.com"

/-- how much a Gemini model may think, if the settings say so -/
def thinkingBudget (s : GeminiSettings) : Option Value :=
  if s.thinkingMode = .text "disabled" then some (.int 0)
  else if s.thinkingMode = .text "custom" ∧ s.thinkingBudget ≠ .null then some s.thinkingBudget
  else none

/-- the provider of a name -/
def make (p : ProviderName) (s : ProviderSettings) (env : Environment) : Except Fault Provider :=
  match p with
  | .gemini => do
    let baseUrl ← address (s.gemini.baseUrl.orElse (.text geminiAddress))
    return .gemini (s.gemini.key env) baseUrl (s.gemini.model.orElse (.text "gemini-2.5-flash"))
      (thinkingBudget s.gemini)
  | .openai => do
    return .openai (s.openai.key env) (← address s.openai.baseUrl) s.openai.model
  | .ollama => do return .ollama (← address s.ollama.baseUrl) s.ollama.model
  | .command => return .command s.command.cmd s.command.timeout

/-- the provider that settings name -/
def asked (s : ProviderSettings) : Except Fault ProviderName :=
  match s.provider with
  | .list _ | .object _ => .error (.unsupported ("unhashable type: '" ++ s.provider.kind ++ "'"))
  | v =>
    match v.text?.bind ProviderName.ofName? with
    | some p => .ok p
    | none => .error (.configuration ("Unsupported API provider: " ++ v.shown))

/-- the first provider that is configured: the one asked for, otherwise the others in order -/
def usable? (p : ProviderName) (s : ProviderSettings) (env : Environment) : Option ProviderName :=
  (p :: ProviderName.all.filter (· ≠ p)).find? fun q => q.isConfigured s env

/-- the warning that another provider stands in -/
def fallbackWarning (asked used : ProviderName) : String :=
  "Provider '" ++ asked.name ++ "' is not configured, falling back to '" ++ used.name ++ "'"

/-- the provider that is chosen, and the warnings on the way -/
def select (s : ProviderSettings) (env : Environment) : List String × Except Fault Provider :=
  match asked s with
  | .error e => ([], .error e)
  | .ok p =>
    match usable? p s env with
    | none =>
      ([], .error (.configuration "No API provider is configured. Please check the settings."))
    | some q => (if q = p then [] else [fallbackWarning p q], make q s env)

end Provider

end Debate
