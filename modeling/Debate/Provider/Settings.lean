import Debate.Value

/-!
# Settings of the providers

A provider turns a prompt into a reply. There are four of them: two services on the network, one
on this machine, and a command. Their settings come from a configuration file whose fields
are copied without a check, so they may hold values of any type.

* `GeminiSettings`, `OpenAISettings`, `OllamaSettings`, `CommandSettings`   the settings of each;
* `ProviderSettings`     all of them, and the provider that is asked for.
-/

namespace Debate

/-- the settings of Gemini -/
structure GeminiSettings where
  apiKey : Value := .text ""
  baseUrl : Value := .text ""
  model : Value := .text "gemini-2.5-flash"
  thinkingMode : Value := .text "default"
  thinkingBudget : Value := .null
  deriving DecidableEq

/-- the settings of a service that speaks as OpenAI does -/
structure OpenAISettings where
  apiKey : Value := .text ""
  baseUrl : Value := .text ""
  model : Value := .text "gpt-4o"
  deriving DecidableEq

/-- the settings of Ollama -/
structure OllamaSettings where
  baseUrl : Value := .text ""
  model : Value := .text "llama3"
  deriving DecidableEq

/-- the settings of a command that reads a prompt and writes a reply -/
structure CommandSettings where
  /-- the program and its arguments -/
  cmd : Value := .list []
  /-- seconds after which the command is stopped -/
  timeout : Value := .null
  deriving DecidableEq

/-- the settings of all providers -/
structure ProviderSettings where
  /-- the provider that is asked for -/
  provider : Value := .text "gemini"
  gemini : GeminiSettings := {}
  openai : OpenAISettings := {}
  ollama : OllamaSettings := {}
  command : CommandSettings := {}
  deriving DecidableEq

/-! ## as objects -/

namespace GeminiSettings

/-- the names of the fields -/
def keys : List String := ["api_key", "base_url", "model", "thinking_mode", "thinking_budget"]

/-- settings with the given fields in place of their own -/
def override (s : GeminiSettings) (fs : Fields) : GeminiSettings where
  apiKey := Fields.getD fs "api_key" s.apiKey
  baseUrl := Fields.getD fs "base_url" s.baseUrl
  model := Fields.getD fs "model" s.model
  thinkingMode := Fields.getD fs "thinking_mode" s.thinkingMode
  thinkingBudget := Fields.getD fs "thinking_budget" s.thinkingBudget

/-- the fields of the settings -/
def toFields (s : GeminiSettings) : Fields :=
  [("api_key", s.apiKey), ("base_url", s.baseUrl), ("model", s.model),
    ("thinking_mode", s.thinkingMode), ("thinking_budget", s.thinkingBudget)]

end GeminiSettings

namespace OpenAISettings

/-- the names of the fields -/
def keys : List String := ["api_key", "base_url", "model"]

/-- settings with the given fields in place of their own -/
def override (s : OpenAISettings) (fs : Fields) : OpenAISettings where
  apiKey := Fields.getD fs "api_key" s.apiKey
  baseUrl := Fields.getD fs "base_url" s.baseUrl
  model := Fields.getD fs "model" s.model

/-- the fields of the settings -/
def toFields (s : OpenAISettings) : Fields :=
  [("api_key", s.apiKey), ("base_url", s.baseUrl), ("model", s.model)]

end OpenAISettings

namespace OllamaSettings

/-- the names of the fields -/
def keys : List String := ["base_url", "model"]

/-- settings with the given fields in place of their own -/
def override (s : OllamaSettings) (fs : Fields) : OllamaSettings where
  baseUrl := Fields.getD fs "base_url" s.baseUrl
  model := Fields.getD fs "model" s.model

/-- the fields of the settings -/
def toFields (s : OllamaSettings) : Fields := [("base_url", s.baseUrl), ("model", s.model)]

end OllamaSettings

namespace CommandSettings

/-- the names of the fields -/
def keys : List String := ["cmd", "timeout"]

/-- settings with the given fields in place of their own -/
def override (s : CommandSettings) (fs : Fields) : CommandSettings where
  cmd := Fields.getD fs "cmd" s.cmd
  timeout := Fields.getD fs "timeout" s.timeout

/-- the fields of the settings -/
def toFields (s : CommandSettings) : Fields := [("cmd", s.cmd), ("timeout", s.timeout)]

end CommandSettings

namespace ProviderSettings

/-- the settings that sections of a configuration give, each in place of what is built in -/
def ofSections (provider : Option Value) (gemini openai ollama command : Fields) :
    ProviderSettings where
  provider := provider.getD (.text "gemini")
  gemini := GeminiSettings.override {} gemini
  openai := OpenAISettings.override {} openai
  ollama := OllamaSettings.override {} ollama
  command := CommandSettings.override {} command

/-- the settings as an object -/
def toValue (s : ProviderSettings) : Value :=
  .object [("provider", s.provider), ("gemini", .object s.gemini.toFields),
    ("openai", .object s.openai.toFields), ("ollama", .object s.ollama.toFields),
    ("command", .object s.command.toFields)]

end ProviderSettings

end Debate
