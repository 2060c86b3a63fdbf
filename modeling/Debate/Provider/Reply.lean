import Debate.Provider.Command
import Debate.Provider.Selection
import Debate.Provider.Services

/-!
# Replies of a provider

A provider is asked for a reply to a prompt, or for its models. A service is asked by a request;
its responses are given from outside, one for each request. A command is asked by running it over a
file tree.

* `Means`               what a provider is asked with: the responses to come, and a world of files;
* `Inquiry`             what comes of asking: entries of the journal, time, and the outcome;
* `Provider.generate`   asks for the reply to a prompt;
* `Provider.models`     asks for the models.
-/

namespace Debate

open Debate.Number

/-- what a provider is asked with -/
structure Means where
  /-- the responses of services that are still to come -/
  responses : List HttpResponse := []
  /-- the world that commands run in -/
  world : Shell.World := {}

/-- what comes of asking a provider -/
structure Inquiry (α : Type) where
  entries : List Entry := []
  /-- the time that the response takes -/
  seconds : Double := Double.zero
  outcome : Except Fault α
  /-- nothing comes, and the run is cancelled meanwhile -/
  interrupted : Bool := false
  /-- what is left to ask with -/
  left : Means

/-- the response when there is none left -/
def HttpResponse.absent : HttpResponse where
  arrival := .broken "no scripted response"

namespace Inquiry

/-- a service is asked -/
def exchange {α : Type} (service : String) (request : HttpRequest) (read : Value → Except Fault α)
    (means : Means) : Inquiry α :=
  let response := means.responses.head?.getD .absent
  { entries := [.request request]
    seconds := response.seconds
    outcome := (HttpResponse.read service response.arrival).bind read
    interrupted := response.arrival = .interrupted
    left := { means with responses := means.responses.tail } }

end Inquiry

namespace Provider

/-- asks for the reply to a prompt; a command is stopped when the patience ends -/
def generate (p : Provider) (now : Instant) (patience : Option Double) (prompt : Value)
    (means : Means) : Inquiry Value :=
  match p with
  | .gemini key url model budget =>
    .exchange "Gemini" (Gemini.request key url model budget prompt) Gemini.reply means
  | .openai key url model =>
    .exchange "OpenAI" (OpenAI.request key url model prompt) OpenAI.reply means
  | .ollama url model => .exchange "Ollama" (Ollama.request url model prompt) Ollama.reply means
  | .command cmd timeout =>
    let r := Command.reply now cmd timeout patience prompt means.world
    { entries := r.entries, outcome := r.outcome, left := { means with world := r.world } }

/-- asks for the models -/
def models (p : Provider) (means : Means) : Inquiry (List Value) :=
  match p with
  | .gemini key url .. => .exchange "Gemini" (Gemini.modelsRequest key url) Gemini.models means
  | .openai key url _ => .exchange "OpenAI" (OpenAI.modelsRequest key url) OpenAI.models means
  | .ollama url _ => .exchange "Ollama" (Ollama.modelsRequest url) Ollama.models means
  | .command cmd _ => { outcome := Command.models cmd, left := means }

end Provider

end Debate
