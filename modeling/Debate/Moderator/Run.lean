import Debate.Moderator.Turn
import Debate.Prompt

/-!
# Runs

A run is a debate on a request, or a failed turn taken once more. A debate goes through iterations;
in each both personas take a turn, one after the other. It ends after the last iteration, when both
personas want to end it in the same iteration, or when a turn fails or is cancelled. However it
ends, it is settled: no message is left pending, and the moderator is idle again.

* `finish`        settles a run;
* `takeTurn`      a persona's turn in a debate, up to the point where it waits;
* `submit`        starts a debate;
* `retry`         takes a failed turn once more;
* `resume`        goes on when a reply arrives.

A step that settles a run returns how; one that only gets to the next turn returns nothing.
-/

namespace Debate.Moderator

variable {σ : Type}

/-! ## starting and settling -/

/-- the notice that both personas want to end -/
def consensusNotice : String := "Both agents have signaled to end the discussion."

/-- the notice that a run was cancelled -/
def cancelledNotice : String := "Generation stopped by user."

/-- the notice that a failed turn went well when it was taken once more -/
def retryNotice : String :=
  "Retry successful. The debate can continue from here, or you can guide it with a new message."

/-- a run is under way -/
def markRunning : Moderating σ Unit := modify fun m => { m with token := some false, running := true }

/-- settles a run; whoever waits for that is woken -/
def finish (s : Surroundings σ) (outcome : Outcome) : Moderating σ Unit := do
  dispatch s .dropPending
  if outcome = .cancelled then
    notify s cancelledNotice
  log .info ("Discussion settled: " ++ outcome.name)
  live ("SETTLED: " ++ outcome.name)
  modify fun m => { m with
    lastOutcome := some outcome
    token := none
    running := false
    waiting := m.waiting.map fun w => { w with woken := true } }

/-- where replies come from for a run that starts now -/
def chooseVoice (s : Surroundings σ) : Moderating σ Voice := do
  let m ← get
  if ← m.settings.hasTooFewTurns then
    throw (.configuration ("max_turns must be at least 1 in fixed mode (got " ++
      m.settings.maxTurns.shown ++ ")"))
  match s.voice with
  | some name => return .given name
  | none =>
    let (warnings, chosen) := Provider.select m.settings.providers s.environment
    for w in warnings do
      log .warning w
    return .chosen (← chosen)

/-! ## debates -/

/-- what was said so far, each with who said it -/
def history (m : Moderator σ) : List String :=
  m.store.conversation.settled.map fun x => m.settings.displayName x.sender ++ ": " ++ x.text.shown

/-- a persona's turn in a debate, up to the point where it waits for its reply -/
def takeTurn (s : Surroundings σ) (voice : Voice) (p : Progress) (persona : Persona) :
    Moderating σ Unit := do
  checkToken
  let said := history (← get)
  let id ← newId
  let now ← timestamp
  dispatch s (.append (.placeholder id now persona.sender))
  let m ← get
  let document := m.store.conversation.document
  let prompt : Prompt := {
    systemPrompt := persona.systemPrompt.shown
    personaName := persona.title
    turnCue := persona.turnCue.shown
    history := said
    userQuery := p.query
    document := ← Prompt.notepadText document
    agentDriven := m.settings.mode = .agentDriven }
  startTurn s (.debate p) voice persona (.text id) (.text prompt.text) document

/-- the next iteration, up to the point where its first turn waits for its reply -/
def beginIteration (s : Surroundings σ) (voice : Voice) (p : Progress) : Moderating σ Unit := do
  let name := toString p.iteration ++ "/" ++ p.limit
  let rule := String.ofList (List.replicate 40 '-')
  log .info ("Iteration " ++ name)
  live rule
  live ("ITERATION " ++ name)
  live rule
  takeTurn s voice { p with position := .first } (← get).settings.agentA

/-- what follows a turn that went well: the next turn, or the end of the debate -/
def afterTurn (s : Surroundings σ) (voice : Voice) (p : Progress) (marked : Bool) :
    Moderating σ (Option Outcome) := do
  match p.position with
  | .first => do
    takeTurn s voice { p with position := .second marked } (← get).settings.agentB
    return none
  | .second before => do
    if p.agentDriven ∧ before ∧ marked then
      log .info "Both agents signalled completion. Stopping."
      notify s consensusNotice
      return some .complete
    else if p.iteration < p.iterations then
      beginIteration s voice { p with iteration := p.iteration + 1 }
      return none
    else
      log .info ("Reached iteration limit (" ++ p.limit ++ ").")
      return some .complete

/-- the first iteration of a debate, up to the point where its first turn waits for its reply -/
def beginDebate (s : Surroundings σ) (voice : Voice) (text : Value) : Moderating σ Unit := do
  let settings := (← get).settings
  beginIteration s voice {
    query := text.shown
    iteration := 1
    iterations := ← settings.iterations
    limit := settings.limit.shown
    agentDriven := settings.mode = .agentDriven
    position := .first }

/-- how a debate goes on after a turn: a failure is recorded and ends it -/
def continueDebate (s : Surroundings σ) (c : Call) (p : Progress) (reply : Except Fault Value) :
    Moderating σ (Option Outcome) := do
  match ← attempt (finishTurn s c reply) with
  | .ok result => afterTurn s c.voice p result.sawMarker
  | .error .cancelled => throw .cancelled
  | .error .aborted => throw .aborted
  | .error e => do
    reportFailure s c.persona c.messageId e
    modify fun m => { m with
      failedStep := some { messageId := c.messageId, prompt := c.prompt, sender := c.persona.sender } }
    return some .failed

/-- settles a debate that came to its end; a fault other than a cancellation is passed on -/
def settleDebate (s : Surroundings σ) (r : Except Fault (Option Outcome)) :
    Moderating σ (Option Outcome) := do
  match r with
  | .ok none => return none
  | .ok (some outcome) => do
    finish s outcome
    return some outcome
  | .error .cancelled => do
    finish s .cancelled
    return some .cancelled
  | .error .aborted => do
    finish s .cancelled
    throw .aborted
  | .error e => do
    finish s .failed
    throw e

/-- starts a debate on a request -/
def submit (s : Surroundings σ) (text image : Value) :
    Moderating σ (Option RunState) := do
  if (← get).running then
    log .warning "A discussion is already running, ignoring new request"
    return some .running
  let voice ← chooseVoice s
  let id ← newId
  let now ← timestamp
  dispatch s (.append (.request id now text image))
  modify fun m => { m with failedStep := none }
  markRunning
  let r ← attempt (beginDebate s voice text)
  return (← settleDebate s (r.map fun _ => none)).map .settled

/-! ## retries -/

/-- settles a retry; its message is put back if it was cancelled -/
def settleRetry (s : Surroundings σ) (persona : Persona) (previous : Message)
    (r : Except Fault Unit) : Moderating σ Bool := do
  let settled : Moderating σ (Outcome × Option Fault) := do
    match r with
    | .ok () => return (.complete, none)
    | .error .cancelled => do
      dispatch s (.replace previous)
      return (.cancelled, none)
    | .error .aborted => do
      dispatch s (.replace previous)
      return (.cancelled, some .aborted)
    | .error e => do
      reportFailure s persona previous.id e
      return (.failed, none)
  match ← attempt settled with
  | .ok (outcome, e) => do
    finish s outcome
    raise e
    return outcome = .complete
  | .error e => do
    finish s .failed
    throw e

/-- takes the failed turn once more, with the prompt as it was sent -/
def retry (s : Surroundings σ) : Moderating σ (Option Bool) := do
  let m ← get
  match m.failedStep with
  | none => do
    log .info "No failed step to retry"
    return some false
  | some step =>
    if m.running then
      log .warning "A discussion is already running, retry ignored"
      return some false
    match m.store.conversation.find? step.messageId with
    | none => do
      log .warning ("Failed message " ++ step.messageId.shown ++ " is gone, dropping failed step")
      modify fun m => { m with failedStep := none }
      return some false
    | some previous =>
      match m.settings.debater step.sender with
      | .error e => throw e
      | .ok persona => do
        let voice ← chooseVoice s
        markRunning
        dispatch s (.reopen step.messageId)
        live ("RETRY: " ++ persona.title)
        let document := (← get).store.conversation.document
        match ← attempt (startTurn s (.retry previous) voice persona step.messageId step.prompt
            document) with
        | .ok () => return none
        | .error e => return some (← settleRetry s persona previous (.error e))

/-- how a retry goes on when its reply arrives -/
def continueRetry (s : Surroundings σ) (c : Call) (previous : Message)
    (reply : Except Fault Value) : Moderating σ Bool := do
  let played : Moderating σ Unit := do
    let _ ← finishTurn s c reply
    modify fun m => { m with failedStep := none }
    notify s retryNotice
  settleRetry s c.persona previous (← attempt played)

/-! ## replies -/

/-- what a run returns to whoever started it -/
inductive Settled where
  | debate (state : RunState)
  | retry (succeeded : Bool)
  deriving DecidableEq, Repr

/-- goes on with the reply that is waited for; nothing happens if none is -/
def resume (s : Surroundings σ) (reply : Except Fault Value) : Moderating σ (Option Settled) := do
  match (← get).call with
  | none => return none
  | some c =>
    match c.task with
    | .debate p => do
      let r ← attempt (continueDebate s c p reply)
      return (← settleDebate s r).map fun o => .debate (.settled o)
    | .retry previous => return some (.retry (← continueRetry s c previous reply))

end Debate.Moderator
