import Debate.Journal
import Debate.Message
import Debate.Number.Double
import Debate.Provider.Selection
import Debate.RunState
import Debate.Settings
import Debate.Store
import Debate.Supply

/-!
# The moderator

The moderator leads a discussion: it lets the personas take turns over the conversation at hand and
says what happened. A turn waits for a reply from outside, and while it waits anything else may
happen; so the moderator is a machine that is told what happens and stops where it waits.

* `Surroundings`       what the moderator is given: who listens, and where replies come from;
* `Moderator`          the state of the machine;
* `Call`, `Task`       the reply that is waited for, and what goes on when it arrives;
* `Moderating`         a step of the machine; what it did stays done when it ends in a fault;
* `perform`            an operation on the store, shown to those who listen.

Whoever listens may answer with requests of its own, which are met at once. A request may show the
conversation once more; `Surroundings.depth` bounds how often requests lead to further requests.
-/

namespace Debate

open Debate.Number

/-! ## listening -/

/-- what a listener asks for when it is shown a conversation -/
inductive Request where
  | cancel
  | edit (content : Value)
  /-- a look at the state -/
  | look
  deriving DecidableEq

/-- what listeners do when they are shown a conversation -/
structure Heard (σ : Type) where
  audience : σ
  entries : List Entry := []
  requests : List Request := []
  fault : Option Fault := none

/-- where replies come from -/
inductive Voice where
  /-- a service that is given from outside, with its name -/
  | given (name : String)
  /-- a provider chosen from the settings -/
  | chosen (provider : Provider)
  deriving DecidableEq

/-- the name of a service -/
def Voice.name : Voice → String
  | .given name => name
  | .chosen p => p.name.name

/-- what the moderator is given -/
structure Surroundings (σ : Type) where
  /-- what those who listen do, at the time given, when they are shown a conversation -/
  hear : Instant → Conversation → σ → Heard σ
  /-- the service that is given from outside, if there is one -/
  voice : Option String := none
  environment : Environment := {}
  /-- how often requests may lead to further requests -/
  depth : Nat := 0

/-! ## the state -/

/-- whose turn it is in an iteration -/
inductive Position where
  | first
  /-- the second turn, and whether the first reply held the marker -/
  | second (marked : Bool)
  deriving DecidableEq, Repr

/-- a debate under way -/
structure Progress where
  query : String
  iteration : Int
  iterations : Int
  /-- the number of iterations as it stands in messages -/
  limit : String
  agentDriven : Bool
  position : Position
  deriving DecidableEq, Repr

/-- what a turn belongs to -/
inductive Task where
  | debate (progress : Progress)
  /-- a turn that failed, taken once more, with its message as it was before -/
  | retry (previous : Message)
  deriving DecidableEq

/-- a turn that waits for its reply -/
structure Call where
  task : Task
  voice : Voice
  persona : Persona
  messageId : Value
  prompt : Value
  /-- the notepad when the turn started -/
  document : Value
  /-- the clock when the turn started -/
  started : Double
  deriving DecidableEq

/-- a conversation that waits to be attached, and whether its turn has come -/
structure Waiter where
  conversation : Conversation
  woken : Bool := false
  deriving DecidableEq

/-- a look at the state -/
structure Snapshot where
  state : RunState
  lastOutcome : Option Outcome
  failedStepId : Option Value
  document : Value
  pending : List Value
  count : Nat
  deriving DecidableEq

/-- a request that was met -/
inductive Granted where
  /-- whether there was anything to cancel -/
  | cancelled (done : Bool)
  | edited
  | looked (snapshot : Snapshot)
  deriving DecidableEq

/-- the state of the moderator -/
structure Moderator (σ : Type) where
  settings : Settings
  store : Store
  audience : σ
  supply : Supply
  /-- a clock that never goes back -/
  clock : Double := Double.zero
  /-- a run is under way -/
  running : Bool := false
  /-- whether the run has a token of its own, and whether it is cancelled -/
  token : Option Bool := none
  call : Option Call := none
  lastOutcome : Option Outcome := none
  failedStep : Option FailedStep := none
  waiting : List Waiter := []
  /-- how often a conversation was shown -/
  shown : Nat := 0
  journal : List Entry := []
  /-- the requests of listeners that were met -/
  granted : List Granted := []

/-- a step of the moderator -/
abbrev Moderating (σ α : Type) := ExceptT Fault (StateM (Moderator σ)) α

namespace Moderator

variable {σ : Type}

/-- whether a run is under way -/
def state (m : Moderator σ) : RunState := if m.running then .running else .idle

/-- a look at the state -/
def snapshot (m : Moderator σ) : Snapshot where
  state := m.state
  lastOutcome := m.lastOutcome
  failedStepId := m.failedStep.map (·.messageId)
  document := m.store.conversation.document
  pending := (m.store.conversation.messages.filter (·.pending)).map (·.id)
  count := m.store.conversation.messages.length

/-- the state with one more entry in the journal -/
def record (m : Moderator σ) (e : Entry) : Moderator σ := { m with journal := m.journal ++ [e] }

/-! ## steps -/

/-- the outcome of a step; its fault is handed over instead of ending everything -/
def attempt {α : Type} (x : Moderating σ α) : Moderating σ (Except Fault α) := fun m =>
  let r := ExceptT.run x m
  (.ok r.1, r.2)

/-- an entry in the log -/
def log (level : Level) (text : String) : Moderating σ Unit :=
  modify fun m => m.record (.log level text)

/-- a line in the live log -/
def live (text : String) : Moderating σ Unit :=
  modify fun m => m.record (.liveAt m.supply.now text)

/-- the next id -/
def newId : Moderating σ String := do
  let m ← get
  set { m with supply := m.supply.draw.2 }
  return m.supply.draw.1

/-- the time -/
def timestamp : Moderating σ String := do
  return (← get).supply.timestamp

/-- whether the run at hand is cancelled -/
def isCancelled (m : Moderator σ) : Bool := m.token.getD false

/-- a fault if the run at hand is cancelled -/
def checkToken : Moderating σ Unit := do
  if isCancelled (← get) then throw .cancelled

/-- the token of the run at hand is cancelled, if it has one that is not cancelled yet -/
def cancel : Moderating σ Bool := do
  match (← get).token with
  | some false => do
    log .info "Cancellation requested"
    modify fun m => { m with token := some true }
    return true
  | _ => return false

/-! ## showing conversations -/

/-- a fault, if there is one -/
def raise (e : Option Fault) : Moderating σ Unit :=
  match e with
  | some e => throw e
  | none => pure ()

/-- an operation on the store, with what is done when its conversation is shown -/
def performWith (announce : Moderating σ Unit) (op : Store.Operation) : Moderating σ Unit := do
  let m ← get
  raise (m.store.refusal? op)
  let (store, shown) := m.store.perform op
  set { m with store }
  if shown then announce

/-- an edit that comes in from outside -/
def editWith (announce : Moderating σ Unit) (content : Value) : Moderating σ Unit := do
  if (← get).store.turnInFlight then
    log .debug "Deferring notepad edit until the current turn finishes"
  performWith announce (.edit content)

/-- a request that was met is noted -/
def grant (g : Granted) : Moderating σ Unit :=
  modify fun m => { m with granted := m.granted ++ [g] }

/-- what a listener asks for is done -/
def meet (announce : Moderating σ Unit) : Request → Moderating σ Unit
  | .cancel => do grant (.cancelled (← cancel))
  | .edit content => do
    editWith announce content
    grant .edited
  | .look => do grant (.looked (← get).snapshot)

/-- the listeners are shown the conversation; what they ask for is handed over -/
def present (s : Surroundings σ) : Moderating σ (Heard σ) := do
  let m ← get
  let h := s.hear m.supply.now m.store.conversation m.audience
  set { m with audience := h.audience, shown := m.shown + 1, journal := m.journal ++ h.entries }
  return h

/-- the listeners are shown the conversation, and what they ask for is done -/
def announce (s : Surroundings σ) : Nat → Moderating σ Unit
  | 0 => do raise (← present s).fault
  | depth + 1 => do
    let h ← present s
    h.requests.forM (meet (announce s depth))
    raise h.fault

/-- an operation on the store, shown to those who listen -/
def perform (s : Surroundings σ) (op : Store.Operation) : Moderating σ Unit :=
  performWith (announce s s.depth) op

/-- a change of the conversation, shown to those who listen -/
def dispatch (s : Surroundings σ) (a : Action) : Moderating σ Unit := perform s (.dispatch a)

/-- a message of the moderator at the end of the log -/
def notify (s : Surroundings σ) (text : String) : Moderating σ Unit := do
  let id ← newId
  let now ← timestamp
  dispatch s (.append (.notice id now text))

end Moderator

end Debate
