import Debate.Fault
import Debate.Persona

/-!
# Prompts

What a persona is sent at its turn: its role, the discussion so far, the user's request, the notepad
with the tags that edit it, how to end the discussion where the personas decide on that, and whose
turn it is.

* `Prompt`         the parts that change from turn to turn;
* `Prompt.text`    the prompt.
-/

namespace Debate

/-- the parts of a prompt that change from turn to turn -/
structure Prompt where
  systemPrompt : String
  personaName : String
  turnCue : String
  /-- what was said so far, each with who said it -/
  history : List String
  userQuery : String
  document : String
  /-- the personas end the discussion themselves -/
  agentDriven : Bool
  deriving DecidableEq, Repr

namespace Prompt

/-- what stands above the notepad -/
def beforeNotepad : String :=
  "You share a notepad with your partner.\n" ++
  "Current notepad content:\n" ++
  "---\n"

/-- what stands below the notepad -/
def afterNotepad : String :=
  "\n" ++
  "---\n" ++
  "Editing the notepad:\n" ++
  "1. Edit the notepad by embedding the tags below anywhere in your reply.\n" ++
  "2. The text outside the tags is what you say in the discussion.\n" ++
  "3. Leave the tags out entirely if the notepad should not change.\n" ++
  "4. Tag content may span several lines; write real line breaks, not \\n.\n" ++
  "   Content is used exactly as written, including line breaks next to the tags.\n" ++
  "\n" ++
  "Tags (tag names are case-insensitive, attribute names are case-sensitive):\n" ++
  "\n" ++
  "<np-replace-all>\n" ++
  "Complete new notepad content.\n" ++
  "</np-replace-all>\n" ++
  "\n" ++
  "<np-append>\n" ++
  "Text added at the end.\n" ++
  "</np-append>\n" ++
  "\n" ++
  "<np-prepend>\n" ++
  "Text added at the beginning.\n" ++
  "</np-prepend>\n" ++
  "\n" ++
  "<np-insert line=\"5\">\n" ++
  "Text inserted after line 5 (line=\"0\" inserts at the top).\n" ++
  "</np-insert>\n" ++
  "\n" ++
  "<np-replace line=\"8\">\n" ++
  "New content for line 8.\n" ++
  "</np-replace>\n" ++
  "\n" ++
  "<np-delete line=\"3\" />\n" ++
  "\n" ++
  "<np-search-replace find=\"old text\" with=\"new text\" all=\"true\" />\n" ++
  "('find' and 'with' are required, 'all' defaults to \"false\" meaning first match\n" ++
  "only; 'find' is matched literally.)\n" ++
  "\n" ++
  "Lines are numbered from 1. Keep tags well-formed: close every tag and quote\n" ++
  "every attribute.\n"

/-- how to end the discussion -/
def endingInstructions : String :=
  "Ending the discussion: when you believe the request has been explored well enough for a " ++
  "final answer, put " ++ marker ++
  " at the very end of your message, after any notepad tags. Leave it out if you want the " ++
  "discussion to continue."

/-- the notepad and the tags that edit it -/
def notepadPart (document : String) : String := beforeNotepad ++ document ++ afterNotepad

/-- the notepad as part of a prompt, for which it has to be a text -/
def notepadText : Value → Except Fault String
  | .text s => .ok s
  | v => .error (.unsupported ("replace() argument 2 must be str, not " ++ v.kind))

@[simp] theorem notepadText_text (s : String) : notepadText (.text s) = .ok s := rfl

/-- the prompt -/
def text (p : Prompt) : String :=
  p.systemPrompt ++ "\n\n[DISCUSSION HISTORY]\n" ++ "\n".intercalate p.history ++
    "\n\n[USER QUERY]\n" ++ p.userQuery ++ "\n\n" ++ notepadPart p.document ++
    (if p.agentDriven then "\n" ++ endingInstructions ++ "\n" else "") ++
    "\n\n" ++ p.personaName ++ ", it's your turn. " ++ p.turnCue ++ " Your response:"

end Prompt

end Debate
