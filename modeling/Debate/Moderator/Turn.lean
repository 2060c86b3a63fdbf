import Debate.Moderator.State
import Debate.Notepad.Unchecked
import Debate.Turn

/-!
# A single turn

A turn starts by telling the store that it is in flight, and then waits for its reply. When the
reply is there, the message gets its text and the notepad its edits in one change; whatever happens,
the turn is no longer in flight afterwards and an edit that came in meanwhile lands.

* `startTurn`       a turn up to the point where it waits;
* `commit`          a reply put into the conversation;
* `finishTurn`      a turn from its reply on;
* `reportFailure`   a failure put into the conversation.
-/

namespace Debate.Moderator

open Debate.Notepad Debate.Number

variable {σ : Type}

/-- a turn up to the point where it waits for its reply -/
def startTurn (s : Surroundings σ) (task : Task) (voice : Voice) (persona : Persona)
    (messageId prompt document : Value) : Moderating σ Unit := do
  checkToken
  live (persona.title ++ " is thinking...")
  log .debug ("Turn for " ++ persona.title ++ " via " ++ voice.name ++ ", prompt " ++
    toString (← prompt.length) ++ " chars")
  let started := (← get).clock
  perform s .beginTurn
  modify fun m => { m with
    call := some { task, voice, persona, messageId, prompt, document, started }
    journal := m.journal ++ [.prompt prompt] }

/-- the notepad as it was when a turn started, after the edits of its reply -/
def editedNotepad (c : Call) (edits : List Edit) : Moderating σ Value := do
  let (document, remarks) := edited c.document edits
  for remark in remarks do
    log .warning remark
  let document ← document
  unless edits.isEmpty do
    log .info (c.persona.title ++ " applied " ++ toString edits.length ++ " notepad operation(s)")
  return document

/-- a reply put into the conversation -/
def commit (s : Surroundings σ) (c : Call) (reply : Except Fault Value) :
    Moderating σ Turn.Result := do
  let value ← reply
  checkToken
  let raw ← Turn.replyText value
  for remark in Reply.remarks raw do
    log .debug remark
  let parsed ← Turn.parsed raw
  let document ← editedNotepad c parsed.edits
  let took ← Turn.milliseconds c.started (← get).clock
  let result := Turn.ofReply c.persona document raw parsed took
  dispatch s (.resolve c.messageId (.text result.text) (.int took) result.document)
  return result

/-- what the live log says of a turn that went well -/
def finishedText (p : Persona) (r : Turn.Result) : String :=
  ">>> " ++ p.title ++ " finished in " ++ toString r.durationMs ++ " ms" ++
    (if r.sawMarker then " (signalled completion)" else "")

/-- a turn from its reply on -/
def finishTurn (s : Surroundings σ) (c : Call) (reply : Except Fault Value) :
    Moderating σ Turn.Result := do
  modify fun m => { m with call := none }
  let r ← attempt (commit s c reply)
  perform s .endTurn
  let result ← r
  live (finishedText c.persona result)
  return result

/-- the wording of a failure that has none -/
def unknownError : String := "An unknown API error occurred."

/-- a failure put into the conversation -/
def reportFailure (s : Surroundings σ) (persona : Persona) (messageId : Value) (e : Fault) :
    Moderating σ Unit := do
  match e with
  | .provider text => log .error ("Error during " ++ persona.title ++ "'s turn: " ++ text)
  | _ => log .error ("Unexpected error during " ++ persona.title ++ "'s turn")
  live ("ERROR (" ++ persona.title ++ "): " ++ e.message)
  dispatch s (.fail messageId (if e.message.isEmpty then unknownError else e.message))

end Debate.Moderator
