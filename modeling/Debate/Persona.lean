import Debate.Message

/-!
# Personas

A persona is one of the two roles of a debate. Two of them are built in: one that analyses, and one
that doubts. What comes in place of their parts is put into texts as it is, whatever its type.

* `marker`             what a persona writes to end the discussion;
* `Persona`            a role: its name, its system prompt, and what it is told at its turn;
* `Persona.cognito`, `Persona.muse`   the built-in roles.
-/

namespace Debate

/-- what a persona writes to end the discussion -/
def marker : String := "<DISCUSSION_COMPLETE>"

/-- one role of a debate -/
structure Persona where
  sender : Sender
  name : Value
  systemPrompt : Value
  /-- what the persona is told at its turn -/
  turnCue : Value := .text ""
  deriving DecidableEq

namespace Persona

/-- the name of a persona as it stands in texts -/
def title (p : Persona) : String := p.name.shown

/-- the analytical role -/
def cognito : Persona where
  sender := .agentA
  name := .text "Cognito"
  turnCue := .text "Address Muse's last point (if any) and continue the analysis."
  systemPrompt := .text <|
    "You are Cognito, a logical and analytical AI. You are responsible for accuracy, " ++
    "coherence and direct relevance to the user's request. Your partner, Muse, is a skeptic " ++
    "who will challenge your points hard. Work with Muse to produce the best possible " ++
    "answer, and keep the user's original request at the centre of the discussion. Answer " ++
    "Muse's objections with clear, well-supported reasoning. If Muse drifts into abstraction " ++
    "or repetition, bring the discussion back to concrete, practical points. Explore every " ++
    "facet of the request that matters before signalling that the discussion can end. Speak " ++
    "only as Cognito; never write Muse's lines.\n" ++
    "\n" ++
    "For very simple requests (a greeting, \"who are you?\", a trivial fact) keep your first " ++
    "reply short. If that reply fully answers the request and nothing is left to debate, end " ++
    "it with " ++ marker ++
    "."

/-- the skeptical role -/
def muse : Persona where
  sender := .agentB
  name := .text "Muse"
  turnCue := .text "Challenge Cognito's last statement."
  systemPrompt := .text <|
    "You are Muse, a creative, skeptical and demanding AI. Your job is to push your logical " ++
    "partner, Cognito, towards the best possible answer for the user.\n" ++
    "\n" ++
    "Challenge Cognito's points: is this enough for what the user asked, what is being " ++
    "overlooked, is there a better approach? Keep every challenge concrete, actionable and " ++
    "tied to the user's request. Do not agree easily, ask for justification and propose bold " ++
    "alternatives when they genuinely serve the user, but avoid repeating yourself or " ++
    "criticising for its own sake. Before the discussion ends, make sure every part of the " ++
    "request has been covered. Speak only as Muse; never write Cognito's lines.\n" ++
    "\n" ++
    "Only when the request is genuinely trivial and Cognito's short answer is complete and " ++
    "already ends with " ++ marker ++
    " may you reply with " ++ marker ++
    " straight away. Otherwise engage in full."

end Persona

end Debate
