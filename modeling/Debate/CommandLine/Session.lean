import Debate.CommandLine.Arguments
import Debate.CommandLine.Console
import Debate.CommandLine.Image
import Debate.Configuration.Build
import Debate.Files.Lock
import Debate.Moderator.Command
import Debate.Rehearsal.Responses
import Debate.Transcript.Saved

/-!
# Sessions

A session carries out command lines one after the other over the same files. A debate is led under a
lock on the state directory, in a directory of its own; what was said, how it went and the notepad are
kept there, and a later command line goes on from that. Whatever ends a debate, the conversation is
saved and the lock is let go.

* `Session`          the files, clocks and locks, and the responses that are still to come;
* `Session.debate`   leads a debate or retries a turn;
* `Session.models`   lists models;
* `Session.call`     carries out a command line.
-/

namespace Debate.CommandLine

open Debate.Files Debate.Number Debate.Transcript

/-- what stays from one command line to the next -/
structure Session where
  desk : Desk := {}
  supply : Supply
  /-- a clock that never goes back -/
  clock : Double := Double.zero
  locks : Locks := {}
  /-- the responses of services that are still to come -/
  responses : List HttpResponse := []
  /-- how many entries of the journal the file of the live log has -/
  written : Nat := 0
  environment : Environment := {}
  /-- the home directory -/
  home : String := "home"

/-- a step of a session; what it did stays done when it ends in a fault -/
abbrev Doing (α : Type) := ExceptT Fault (StateM Session) α

namespace Session

/-- how a command line ends -/
inductive Exit where
  | success
  | failure
  | configuration
  | cancelled
  deriving DecidableEq, Repr

/-- the code of an end -/
def Exit.code : Exit → Nat
  | .success => 0
  | .failure => 1
  | .configuration => 2
  | .cancelled => 130

/-- the end that an outcome stands for -/
def Exit.ofOutcome : Outcome → Exit
  | .complete => .success
  | .failed => .failure
  | .cancelled => .cancelled

/-! ## steps -/

/-- something loaded from files -/
def load {α : Type} (m : Loading α) : Doing α := fun s =>
  let r := ExceptT.run m s.desk
  (r.1, { s with desk := r.2 })

/-- something done on the disk -/
def onDisk {α : Type} (m : OnDisk α) : Doing α := load (Loading.onDisk m)

/-- something drawn -/
def draw {α : Type} (m : Drawing α) : Doing α := fun s =>
  let r := ExceptT.run m s.supply
  (r.1, { s with supply := r.2 })

/-- entries in the journal -/
def note (es : List Entry) : Doing Unit :=
  modify fun s => { s with desk := { s.desk with journal := s.desk.journal ++ es } }

/-- a message in the log -/
def log (level : Level) (text : String) : Doing Unit := note [.log level text]

/-- something that is printed -/
def print (text : String) : Doing Unit := note [.printed text]

/-- the outcome of a step; its fault is handed over instead of ending everything -/
def attempt {α : Type} (x : Doing α) : Doing (Except Fault α) := fun s =>
  let r := ExceptT.run x s
  (.ok r.1, r.2)

/-- the value of an outcome, or its fault -/
def settle {α : Type} (r : Except Fault α) : Doing α := fun s => (r, s)

/-- a step with another one after it, whatever comes of the first; the fault of the second counts
more -/
def ensuring {α : Type} (x : Doing α) (after : Doing Unit) : Doing α := do
  let r ← attempt x
  after
  settle r

/-! ## settings -/

/-- the settings of a command line, and the state directory -/
def loadSettings (a : Arguments) : Doing (Settings × Path) := do
  let s ← get
  let path := Path.ofString a.config
  let c ← load (Configured.load s.home path a.profile)
  let settings ← load (Settings.build { c with cfg := a.override c.cfg } s.environment)
  return (settings, c.library.state)

/-! ## debates -/

/-- a debate as it goes on: the moderator, the directory and the name of the run -/
structure Stage where
  moderator : Moderator Audience
  run : Path
  name : String

/-- the saved run that is gone on with, if there is one -/
def resumeSaved (run : Path) : Doing Loaded := do
  let (v, warnings) ← onDisk (Transcript.loadValue run)
  note (warnings.map (.log .warning))
  let (loaded, warnings) ← draw (Transcript.read run v)
  note (warnings.map (.log .warning))
  return loaded

/-- a conversation to start with, over the notepad of a file -/
def fresh (notepad : Option String) : Doing Conversation := do
  let document ← onDisk (Transcript.readNotepad (notepad.map Path.ofString))
  let id ← draw Drawing.newId
  let now ← draw Drawing.timestamp
  return { id := .text id, createdAt := .text now, document := .text document }

/-- the surroundings of a debate -/
def surroundings (environment : Environment) : Surroundings Audience where
  hear := Audience.hear
  environment := environment

/-- a ruler in the live log -/
def ruler : String := String.ofList (List.replicate 60 '=')

/-- lines in the live log -/
def liveLines (texts : List String) : Doing Unit := do
  let s ← get
  note (texts.map (Entry.liveAt s.supply.now))

/-- the file of the live log of a run -/
def livePath (run : Path) : Path := run.child "live.log"

/-- the lines of the live log among entries, added to its file as long as that is there -/
def addLive (run : Path) (es : List Entry) (d : Disk) : Disk :=
  match d.tree.stat (livePath run) with
  | .ok (.file _) =>
    (ExceptT.run (Disk.append (livePath run) (Text.Utf8.encode (Journal.live es))) d).2
  | _ => d

/-- the file of the live log brought up to date -/
def flush (run : Path) : Doing Unit := modify fun s =>
  { s with
    desk := { s.desk with disk := addLive run (s.desk.journal.drop s.written) s.desk.disk }
    written := s.desk.journal.length }

/-- what a debate needs besides those who listen -/
structure Backstage where
  means : Means
  run : Path
  /-- how many entries of the journal the file of the live log has -/
  written : Nat := 0

/-- the line for the call of a debate; the live log is up to date when a command is run -/
def reading : Rehearsal.Reading Audience Backstage := fun m c b =>
  let disk := addLive b.run (m.journal.drop b.written) m.audience.disk
  let (line, means) := Rehearsal.ask m.supply.now c
    { b.means with world := { b.means.world with tree := disk.tree } }
  (line, { m.audience with disk := { disk with tree := means.world.tree } },
    { b with means, written := m.journal.length })

/-- the variables that commands are given -/
def commandVariables (s : Session) : Environment :=
  { bindings := ("HOME", s.home) :: s.environment.bindings }

/-- something done by the moderator; the disk, the clocks and the journal go there and back -/
def moderate {α : Type} (st : Stage)
    (f : Rehearsal.Scene Audience Backstage → Except Fault α × Rehearsal.Scene Audience Backstage) :
    Doing (Except Fault α × Stage) := do
  flush st.run
  let s ← get
  let m := st.moderator
  let w : Rehearsal.Scene Audience Backstage := {
    moderator := { m with
      audience := { m.audience with disk := s.desk.disk }
      supply := s.supply, clock := s.clock, journal := [] }
    script := {
      means := { responses := s.responses, world := { environment := s.commandVariables } }
      run := st.run } }
  let (r, w) := f w
  let m := w.moderator
  set { s with
    desk := { disk := m.audience.disk, journal := s.desk.journal ++ m.journal }
    supply := m.supply, clock := m.clock
    responses := w.script.means.responses, written := s.written + w.script.written }
  return (r, { st with moderator := m })

/-- leads the debate or the retry that is asked for -/
def drive (a : Arguments) (st : Stage) : Doing (Except Fault Unit × Stage) := do
  let s ← get
  let around := surroundings s.environment
  let perform (c : Command) : Doing (Except Fault Unit × Stage) := do
    let (r, st) ← moderate st (Rehearsal.perform around reading (return c))
    return (r.map fun _ => (), st)
  match a.errand with
  | .run d => do
    let image ← attempt do
      match d.image.filter fun s => !s.isEmpty with
      | some name => return some (← onDisk (imageAddress (Path.ofString name)))
      | none => return none
    match image with
    | .ok image => perform (.submit (.text d.request) (.ofText? image))
    | .error e => return (.error e, st)
  | _ => do
    if st.moderator.failedStep.isNone then
      log .error "Nothing to retry: the last run did not fail"
      return (.ok (), st)
    perform .retry

/-- leads a debate, with a header and an end in the live log; the conversation is saved in between -/
def driveAndSave (a : Arguments) (st : Stage) : Doing Stage := do
  liveLines [ruler, "DUET ARENA - " ++ st.name, "Watch: tail -f " ++ st.run.text ++ "/live.log", ruler]
  let (r, st) ← drive a st
  let now ← draw Drawing.timestamp
  let m := st.moderator
  onDisk (Transcript.save st.run now m.store.conversation m.failedStep)
  liveLines [ruler, "ORCHESTRATOR FINISHED", ruler]
  settle r
  return st

/-- a step whose lines of the live log are added to the file of the run -/
def withLiveLog {α : Type} (run : Path) (x : Doing α) : Doing α := do
  onDisk (Disk.append (livePath run) [])
  modify fun s => { s with written := s.desk.journal.length }
  ensuring x (flush run)

/-- what is written and printed about a debate that is settled -/
def report (st : Stage) (outcome : Outcome) : Doing Unit := do
  let c := st.moderator.store.conversation
  let summary := toString c.messages.length ++ " messages, notepad " ++
    toString (← settle c.document.length) ++ " chars"
  onDisk (Transcript.resolve st.run (← draw Drawing.timestamp) (.settled outcome) (.text summary))
  if !c.document.isVoid then
    note [.printed ("\n" ++ ruler), .printed "NOTEPAD", .printed ruler, .printed c.document.shown]
  if st.moderator.failedStep.isSome then
    print ("\nTurn failed. Retry with: duet.py retry --name " ++ st.name)

/-- the stage of a debate over a conversation -/
def stageFor (settings : Settings) (run : Path) (name : String) (c : Conversation) : Doing Stage := do
  let s ← get
  return {
    moderator := {
      settings
      store := { conversation := c }
      audience := { writer := .start run c, console := .start settings c, disk := s.desk.disk }
      supply := s.supply }
    run, name }

/-- the name of a run: the one that is given, otherwise the time -/
def nameOf (a : Arguments) (now : Instant) : String :=
  let given := match a.errand with
    | .run d => d.name.getD ""
    | .retry name => name
    | .models => ""
  if given = "" then now.stamp else given

/-- the directory of a run -/
def runPath (state : Path) (name : String) : Path := (state.child "runs").child name

/-- a debate or a retry in the directory of a run -/
def debateIn (a : Arguments) (settings : Settings) (run : Path) (name : String) : Doing Exit := do
  onDisk (Disk.ensureSecure run)
  let saved ← resumeSaved run
  let c ← match saved.conversation, a.errand with
    | some c, _ => pure (some c)
    | none, .run d => do pure (some (← fresh d.notepad))
    | none, _ => pure none
  match c with
  | none => do
    log .error ("No conversation found in " ++ run.text)
    return .failure
  | some c => do
    let st ← stageFor settings run name c
    let (_, st) ← moderate st fun w => w.step (Moderator.restore saved.failedStep)
    if let some e := c.idFault?.or (Console.fault? c) then throw e
    let st ← withLiveLog run (driveAndSave a st)
    match st.moderator.lastOutcome with
    | none => return .failure
    | some outcome => do
      report st outcome
      return .ofOutcome outcome

/-- a debate or a retry under the lock -/
def debateLocked (a : Arguments) (settings : Settings) (state : Path) : Doing Exit := do
  onDisk (Disk.ensureSecure state)
  let name := nameOf a (← get).supply.now
  if !Text.isName name then throw (.configuration (Text.badName "run" name))
  debateIn a settings (runPath state name) name

/-! ## the lock -/

/-- by whom a lock is held that this program holds -/
def self : String := "self"

/-- an attempt to get the lock of a directory -/
def acquire (state : Path) : Doing Bool := do
  let (got, locks) ← onDisk (Disk.acquireLock (← get).locks state self)
  modify fun s => { s with locks }
  return got

/-- the lock of a directory is let go, and its file is taken away -/
def release (state : Path) : Doing Unit := do
  let locks ← onDisk (Disk.releaseLock (← get).locks state self)
  modify fun s => { s with locks }

/-- leads a debate or retries a turn -/
def debate (a : Arguments) : Doing Exit := do
  let (settings, state) ← loadSettings a
  if ← acquire state then ensuring (debateLocked a settings state) (release state)
  else do
    log .error "Another orchestrator is running. Exiting."
    return .failure

/-! ## models -/

/-- lists the models of the provider -/
def models (a : Arguments) : Doing Exit := do
  let (settings, _) ← loadSettings a
  let s ← get
  let (warnings, chosen) := Provider.select settings.providers s.environment
  note (warnings.map (.log .warning))
  let p ← settle chosen
  let i := p.models { responses := s.responses }
  note i.entries
  modify fun s => { s with clock := Double.add s.clock i.seconds, responses := i.left.responses }
  if i.interrupted then throw (.unsupported "interrupted")
  match i.outcome with
  | .ok names => do
    note (names.map fun n => .printed n.shown)
    return .success
  | .error (.provider message) => do
    log .error message
    return .failure
  | .error e => throw e

/-! ## calls -/

/-- carries out what the arguments ask for; a fault of the configuration is logged -/
def carryOut (a : Arguments) : Doing Exit := do
  let errand : Doing Exit := match a.errand with
    | .models => models a
    | _ => debate a
  match ← attempt errand with
  | .error (.configuration message) => do
    log .error message
    return .configuration
  | r => settle r

/-- how a command line ends that was carried out, or why it was not -/
inductive Result where
  | refused (r : Refusal)
  | ended (r : Except Fault Exit)

/-- the code with which the program ends; another one if a fault ends it -/
def Result.code : Result → Nat
  | .refused .help => 0
  | .refused .usage => 2
  | .ended (.ok e) => e.code
  | .ended (.error _) => 1

/-- what a command line comes to -/
structure Reply where
  result : Result
  journal : List Entry := []
  /-- messages for finding faults are asked for -/
  verbose : Bool := false
  session : Session

/-- carries out a command line with the responses that it may get -/
def call (s : Session) (words : List String) (responses : List HttpResponse) : Reply :=
  match Arguments.read words with
  | .error r => { result := .refused r, session := s }
  | .ok a =>
    let s := { s with responses, written := 0, desk := { s.desk with journal := [] } }
    let (r, s) := (ExceptT.run (carryOut a)).run s
    { result := .ended r, journal := s.desk.journal, verbose := a.verbose, session := s }

end Session

end Debate.CommandLine
