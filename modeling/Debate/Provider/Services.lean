import Debate.Provider.Exchange

/-!
# Services

Three kinds of services are asked for replies. Each has its own requests, and its own places where a
response holds the text. Under the name of each service stand

* `request`                   the request that sends a prompt;
* `reply`                     the text of a response, or why it is blocked;
* `modelsRequest`, `models`   the models that can be asked.
-/

/-! ## services that speak as OpenAI does -/

namespace Debate.OpenAI

/-- the key, as a header -/
def headers (apiKey : Value) : Fields := [("Authorization", .text ("Bearer " ++ apiKey.shown))]

/-- the request that sends a prompt -/
def request (apiKey : Value) (baseUrl : String) (model : Value) (prompt : Value) : HttpRequest where
  method := "POST"
  url := baseUrl ++ "/v1/chat/completions"
  body := some (.object [("model", model),
    ("messages", .list [.object [("role", .text "user"), ("content", prompt)]]),
    ("stream", .bool false)])
  headers := some (headers apiKey)

/-- the text of a response; it is handed over as it is -/
def reply (response : Value) : Except Fault Value := do
  let data ← response.fields
  let choice ← ((Fields.getD data "choices" .null).orElse (.list [.object []])).first
  let fs ← choice.fields
  let message ← ((Fields.getD fs "message" .null).orElse (.object [])).fields
  return (Fields.getD message "content" .null).orElse (.text "")

/-- the request that asks for the models -/
def modelsRequest (apiKey : Value) (baseUrl : String) : HttpRequest where
  method := "GET"
  url := baseUrl ++ "/v1/models"
  headers := some (headers apiKey)

/-- the values of a key in those items that have it, in order -/
def named (key : String) (items : List Value) : Except Fault (List Value) := do
  let names ← items.filterMapM fun m => do
    if ← m.mentions key then return some (← m.at key) else return none
  Value.sorted names

/-- the models, in order -/
def models (response : Value) : Except Fault (List Value) := do
  let data ← response.fields
  named "id" (← (Fields.getD data "data" (.list [])).elements)

end Debate.OpenAI

/-! ## Ollama -/

namespace Debate.Ollama

/-- the request that sends a prompt -/
def request (baseUrl : String) (model : Value) (prompt : Value) : HttpRequest where
  method := "POST"
  url := baseUrl ++ "/api/generate"
  body := some (.object [("model", model), ("prompt", prompt), ("stream", .bool false)])

/-- the text of a response; it is handed over as it is -/
def reply (response : Value) : Except Fault Value := do
  let data ← response.fields
  return (Fields.getD data "response" .null).orElse (.text "")

/-- the request that asks for the models -/
def modelsRequest (baseUrl : String) : HttpRequest where
  method := "GET"
  url := baseUrl ++ "/api/tags"

/-- the models, in order -/
def models (response : Value) : Except Fault (List Value) := do
  let data ← response.fields
  OpenAI.named "name" (← (Fields.getD data "models" (.list [])).elements)

end Debate.Ollama

/-! ## Gemini -/

namespace Debate.Gemini

/-- the key among the parameters, if there is one -/
def parameters (apiKey : Value) : Option Fields :=
  if apiKey.isVoid then none else some [("key", apiKey)]

/-- the body that holds a prompt -/
def body (budget : Option Value) (prompt : Value) : Value :=
  let contents : String × Value := ("contents",
    .list [.object [("parts", .list [.object [("text", prompt)]])]])
  match budget with
  | none => .object [contents]
  | some b => .object [contents, ("generationConfig",
      .object [("thinkingConfig", .object [("thinkingBudget", b)])])]

/-- the request that sends a prompt -/
def request (apiKey : Value) (baseUrl : String) (model : Value) (budget : Option Value)
    (prompt : Value) : HttpRequest where
  method := "POST"
  url := baseUrl ++ "/v1beta/models/" ++ model.shown ++ ":generateContent"
  body := some (body budget prompt)
  parameters := parameters apiKey

/-- why a response without a text is blocked, if it is -/
def blocked (data : Fields) (candidate : Value) : Except Fault Unit := do
  let feedback ← ((Fields.getD data "promptFeedback" .null).orElse (.object [])).fields
  let reason := Fields.getD feedback "blockReason" .null
  if !reason.isVoid then throw (.provider ("Response blocked due to: " ++ reason.shown))
  let fs ← candidate.fields
  if Fields.getD fs "finishReason" .null = .text "SAFETY" then
    throw (.provider "Response blocked due to safety settings.")

/-- the text of a response -/
def reply (response : Value) : Except Fault Value := do
  let data ← response.fields
  let candidate ← ((Fields.getD data "candidates" .null).orElse (.list [.object []])).first
  let fs ← candidate.fields
  let content ← ((Fields.getD fs "content" .null).orElse (.object [])).fields
  let parts ← ((Fields.getD content "parts" .null).orElse (.list [])).elements
  let texts ← parts.mapM fun p => do
    let fs ← p.fields
    return Fields.getD fs "text" (.text "")
  let text ← Value.concat "" texts
  if text.isEmpty then blocked data candidate
  return .text text

/-- the request that asks for the models -/
def modelsRequest (apiKey : Value) (baseUrl : String) : HttpRequest where
  method := "GET"
  url := baseUrl ++ "/v1beta/models"
  parameters := parameters apiKey

/-- whether a model of the service takes prompts -/
def takesPrompts (m : Value) : Except Fault Bool := do
  let fs ← m.fields
  if ← (Fields.getD fs "name" (.text "")).mentions "gemini" then
    (Fields.getD fs "supportedGenerationMethods" (.list [])).mentions "generateContent"
  else return false

/-- the name of a model, without what stands in front of every name -/
def modelName (m : Value) : Except Fault Value := do
  match ← m.at "name" with
  | .text s => return .text (String.ofList (Text.replaceAll "models/".toList [] s.toList))
  | v => throw (v.lacks "replace")

/-- the models that take prompts, in order -/
def models (response : Value) : Except Fault (List Value) := do
  let data ← response.fields
  let all ← (Fields.getD data "models" (.list [])).elements
  let names ← all.filterMapM fun m => do
    if ← takesPrompts m then return some (← modelName m) else return none
  Value.sorted names

end Debate.Gemini
