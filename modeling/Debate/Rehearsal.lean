import Debate.Moderator.Command

/-!
# Rehearsals

In a rehearsal the replies come from a script. A line of the script says how long the reply takes,
what happens while it is waited for, and how it ends. Commands that have to wait for the run are
given beside it: they are carried out after everything else that happens during the line, and before
the run goes on, unless the task that waits for the run was called off first.

* `Line`           a line of the script;
* `Scene`          the moderator, the script, and notes of what happened;
* `speak`          the line for a call, up to where the run waits again or is settled;
* `play`           lines until the run is settled;
* `perform`        a command, with the run that it starts.
-/

namespace Debate.Rehearsal

open Debate.Number

/-! ## the script -/

/-- what happens while a reply is waited for -/
inductive Cue where
  /-- a command, carried out at once -/
  | command (c : Drawing Command)
  /-- a command that is given beside the run -/
  | beside (c : Drawing Command)
  /-- the task that waits for the run is called off -/
  | abort

/-- how a reply ends -/
inductive Ending where
  | replies (reply : Value)
  | fails (e : Fault)
  /-- never, unless it is cancelled -/
  | hangs

/-- a line of the script; every cue has a name in it -/
structure Line where
  seconds : Double := Double.zero
  /-- what the line leaves in the journal before its cues are followed -/
  entries : List Entry := []
  cues : List (String × Cue) := []
  ending : Ending

/-- what happened during a run -/
inductive Note where
  /-- a request of a listener was met -/
  | granted (g : Granted)
  /-- a cue was followed -/
  | followed (name : String) (answer : Except Fault Answer)

/-- the moderator, the script, and notes -/
structure Scene (σ ρ : Type) where
  moderator : Moderator σ
  script : ρ
  notes : List Note := []
  /-- the answers to commands that were given beside the run -/
  aside : List (Except Fault Answer) := []

variable {σ ρ : Type}

namespace Scene

/-- a step of the moderator, with the requests of listeners noted -/
def step {α : Type} (x : Moderating σ α) (w : Scene σ ρ) : Except Fault α × Scene σ ρ :=
  let (r, m) := (ExceptT.run x).run w.moderator
  (r, { w with
    moderator := { m with granted := [] }, notes := w.notes ++ m.granted.map Note.granted })

/-- something drawn from the moderator's ids -/
def draw {α : Type} (x : Drawing α) (w : Scene σ ρ) : Except Fault α × Scene σ ρ :=
  let (r, supply) := (ExceptT.run x).run w.moderator.supply
  (r, { w with moderator := { w.moderator with supply } })

/-- one more note -/
def note (w : Scene σ ρ) (name : String) (answer : Except Fault Answer) : Scene σ ρ :=
  { w with notes := w.notes ++ [.followed name answer] }

/-- a command that is drawn first -/
def obey (s : Surroundings σ) (c : Drawing Command) (w : Scene σ ρ) :
    Except Fault Answer × Scene σ ρ :=
  match w.draw c with
  | (.ok c, w) => w.step (Moderator.obey s c)
  | (.error e, w) => (.error e, w)

end Scene

/-! ## lines -/

/-- the commands that were given beside the run: before and after the waiting task was called off -/
structure Besides where
  before : List (Drawing Command) := []
  after : List (Drawing Command) := []
  aborted : Bool := false

/-- one more command that was given beside the run -/
def Besides.push (b : Besides) (c : Drawing Command) : Besides :=
  if b.aborted then { b with after := b.after ++ [c] } else { b with before := b.before ++ [c] }

/-- a cue is followed -/
def follow (s : Surroundings σ) (cue : String × Cue) (w : Scene σ ρ) (b : Besides) :
    Scene σ ρ × Besides :=
  match cue.2 with
  | .command c =>
    let (r, w) := w.obey s c
    (w.note cue.1 r, b)
  | .beside c => (w.note cue.1 (.ok .nothing), b.push c)
  | .abort => (w.note cue.1 (.ok (.done true)), { b with aborted := true })

/-- cues are followed, in order -/
def followAll (s : Surroundings σ) (w : Scene σ ρ) (b : Besides) :
    List (String × Cue) → Scene σ ρ × Besides
  | [] => (w, b)
  | cue :: cues =>
    let (w, b) := follow s cue w b
    followAll s w b cues

/-- commands that were given beside the run are carried out -/
def carryOut (s : Surroundings σ) (w : Scene σ ρ) : List (Drawing Command) → Scene σ ρ
  | [] => w
  | c :: cs =>
    let (r, w) := w.obey s c
    carryOut s { w with aside := w.aside ++ [r] } cs

/-- what a line gives as the reply -/
def replyOf (l : Line) (aborted : Bool) : Except Fault Value :=
  if aborted then .error .aborted
  else
    match l.ending with
    | .replies v => .ok v
    | .fails e => .error e
    | .hangs => .error .cancelled

/-- whether a reply is still under way at the end of its line -/
def Ending.isOpen : Ending → Bool
  | .hangs => true
  | _ => false

/-- a line: everything that happens in it, and the step of the run that follows -/
def speak (s : Surroundings σ) (l : Line) (w : Scene σ ρ) :
    Except Fault (Option Moderator.Settled) × Scene σ ρ :=
  let m := w.moderator
  let w := { w with moderator := { m with
    clock := Double.add m.clock l.seconds, journal := m.journal ++ l.entries } }
  let (w, b) := followAll s w {} l.cues
  let (early, late) := if l.ending.isOpen then (b.before ++ b.after, []) else (b.before, b.after)
  let w := carryOut s w early
  let (r, w) := w.step (Moderator.resume s (replyOf l b.aborted))
  (r, carryOut s w late)

/-! ## runs -/

/-- how many replies a run may still wait for -/
def repliesAhead (m : Moderator σ) : Nat :=
  match m.call with
  | none => 0
  | some c =>
    match c.task with
    | .retry _ => 1
    | .debate p => (2 * (p.iterations - p.iteration) + 2).toNat

/-- how a script goes on: the line for the call of a moderator, and what it makes of those who listen
and of the script -/
abbrev Reading (σ ρ : Type) := Moderator σ → Call → ρ → Line × σ × ρ

/-- lines until the run is settled -/
def playFor (s : Surroundings σ) (next : Reading σ ρ) :
    Nat → Scene σ ρ → Except Fault (Option Moderator.Settled) × Scene σ ρ
  | 0, w => (.ok none, w)
  | fuel + 1, w =>
    match w.moderator.call with
    | none => (.ok none, w)
    | some c =>
      let (l, audience, script) := next w.moderator c w.script
      match speak s l { w with moderator := { w.moderator with audience }, script } with
      | (.ok none, w) => playFor s next fuel w
      | r => r

/-- lines until the run is settled -/
def play (s : Surroundings σ) (next : Reading σ ρ) (w : Scene σ ρ) :
    Except Fault (Option Moderator.Settled) × Scene σ ρ :=
  playFor s next (repliesAhead w.moderator) w

/-- the conversations that wait are attached, in order -/
def attachAll (s : Surroundings σ) : Nat → Scene σ ρ → Scene σ ρ
  | 0, w => w
  | n + 1, w => attachAll s n (w.step (Moderator.attach s)).2

/-- the answer of a run that is settled -/
def answerOf : Option Moderator.Settled → Answer
  | some (.debate state) => .state state
  | some (.retry b) => .done b
  | none => .later

/-- a command, with the run that it starts -/
def perform (s : Surroundings σ) (next : Reading σ ρ) (c : Drawing Command)
    (w : Scene σ ρ) : Except Fault Answer × Scene σ ρ :=
  match w.obey s c with
  | (.ok .later, w) =>
    let (r, w) := play s next w
    (r.map answerOf, attachAll s w.moderator.waiting.length w)
  | r => r

end Debate.Rehearsal
