import Debate.Journal
import Debate.Provider.Exchange
import Debate.Shell.Run
import Debate.Text.Blank

/-!
# Commands as providers

A command reads the prompt on its input and writes the reply. Its lines go to the live log as they
come. It fails if it takes too long, or if it ends with a code other than zero without having
written anything; with a reply, such a code is only worth a warning.

* `Command.Line`        a line of output, with the time at which it was complete;
* `Command.lines`       the lines that were written to a stream;
* `Command.reply`       what comes of a prompt: entries of the journal, the reply, and the files after it.
-/

namespace Debate.Command

open Debate.Number Debate.Shell Debate.Text

/-! ## lines -/

/-- bytes up to and including each line feed, and what is left over -/
def splitLines (line : List UInt8) : List UInt8 → List (List UInt8) × List UInt8
  | [] => ([], line)
  | b :: bs =>
    if b = 10 then
      let r := splitLines [] bs
      (line :: r.1, r.2)
    else splitLines (line ++ [b]) bs

/-- a line without the line feeds and carriage returns at its end -/
def lineText (bs : List UInt8) : String :=
  String.ofList ((Utf8.decodeLenient bs).toList.reverse.dropWhile fun c => c = '\n' || c = '\r').reverse

/-- the lines that were written to a stream; what stands after the last line feed is a line only
when nothing more can come -/
def lines (ended : Bool) (written : List Written) (stream : Stream) : List String :=
  let bytes := (written.filter fun w => w.stream = stream).flatMap (·.bytes)
  let (complete, rest) := splitLines [] bytes
  (complete ++ if ended ∧ rest ≠ [] then [rest] else []).map lineText

/-! ## replies -/

/-- the seconds after which a command is stopped, if it ever is -/
def limit (timeout : Value) : Except Fault (Option Double) :=
  if timeout.isVoid then .ok none
  else
    match timeout with
    | .bool _ => .ok (some (Double.ofInt 1))
    | .int n => .ok (some (Double.ofInt n))
    | .float x => .ok (some x)
    | v => .error (.unsupported ("'<=' not supported between instances of '" ++ v.kind ++ "' and 'int'"))

/-- why a process is stopped -/
inductive Stopped where
  | tooLate
  | cancelled
  deriving DecidableEq, Repr

/-- the lines of the live log -/
def liveLines (now : Instant) (name : String) (texts : List String) : List Entry :=
  if name.isEmpty then [] else texts.map fun s => Entry.liveAt now (name ++ ": " ++ s)

/-- the first of the two times at which a process may be stopped -/
def stopAt? (limit patience : Option Double) : Option (Double × Stopped) :=
  match limit, patience with
  | some t, some c => if Double.lt c t then some (c, .cancelled) else some (t, .tooLate)
  | some t, none => some (t, .tooLate)
  | none, some c => some (c, .cancelled)
  | none, none => none

/-- the failure of a command that took too long -/
def tooLate (timeout : Value) : Fault := .provider ("Timeout after " ++ timeout.shown ++ "s")

/-- what comes of a process that ended -/
def finished (name : String) (timeout : Value) (p : Process) : List Entry × Except Fault Value :=
  let number := p.ending.number
  let results := "\n".intercalate (lines true p.written .results)
  let complaints := "\n".intercalate (lines true p.written .complaints)
  if number = -1 then ([], .error (tooLate timeout))
  else if number ≠ 0 ∧ results.toList.all isBlank then
    ([], .error (.provider ("Exit code " ++ toString number ++ ": " ++
      String.ofList (complaints.toList.take 500))))
  else if number ≠ 0 then
    ([.log .warning ("Agent command " ++ name ++ " exited with code " ++ toString number ++
      " but produced output")], .ok (.text results))
  else ([], .ok (.text results))

/-- what comes of a process that may be stopped -/
def outcome (now : Instant) (name : String) (timeout : Value) (stop : Option (Double × Stopped))
    (p : Process) : List Entry × Except Fault Value :=
  match stop.bind fun s => (p.until? s.1).map fun written => (s.2, written) with
  | some (reason, written) =>
    (liveLines now name (lines false written .results),
      .error (match reason with | .tooLate => tooLate timeout | .cancelled => .cancelled))
  | none =>
    let r := finished name timeout p
    (liveLines now name (lines true p.written .results) ++ r.1, r.2)

/-- the texts of a command: the program and its arguments -/
def texts (cmd : Value) : Except Fault (String × List String) := do
  let first ← cmd.first
  let elements ← cmd.elements
  let all ← elements.mapM fun v =>
    match v with
    | .text s => pure s
    | v => throw (Fault.unsupported ("expected str, bytes or os.PathLike object, not " ++ v.kind))
  if all.any fun s => s.toList.contains (Char.ofNat 0) then throw (.badValue "embedded null byte")
  return (first.shown, all.tail)

/-- what comes of a prompt -/
structure Answer where
  entries : List Entry := []
  outcome : Except Fault Value
  world : World

/-- whether a process is stopped before it can do anything -/
def isStoppedAtOnce (stop : Option (Double × Stopped)) : Bool :=
  stop.any fun s => !(Double.lt Double.zero s.1)

/-- the fault of a command that cannot be started -/
def notStarted (name : String) (e : FileError) : Fault :=
  .provider ("Could not start " ++ name ++ ": " ++ (Fault.file e [name]).message)

/-- what comes of a prompt; only a text can be handed to the command -/
def reply (now : Instant) (cmd timeout : Value) (patience : Option Double) (prompt : Value)
    (world : World) : Answer :=
  match texts cmd with
  | .error e => { outcome := .error e, world }
  | .ok (name, args) =>
    let input := Utf8.encode (match prompt with
      | .text s => s
      | _ => "")
    let stop : Except Fault (Option (Double × Stopped)) :=
      (limit timeout).map fun limit => stopAt? limit patience
    match start name args input (stop.toOption.join.map (·.1)) world with
    | .error e => { outcome := .error (notStarted name e), world }
    | .ok (p, after) =>
      match stop with
      | .error e => { outcome := .error e, world }
      | .ok stop =>
        let r := outcome now name timeout stop p
        if isStoppedAtOnce stop then { entries := r.1, outcome := r.2, world }
        else
          match prompt with
          | .text _ => { entries := r.1, outcome := r.2, world := after }
          | v => { outcome := .error (.unsupported ("'" ++ v.kind ++ "' object has no attribute 'encode'")), world }

/-- the one model of a command: the command itself -/
def models (cmd : Value) : Except Fault (List Value) := do
  return [.text (← Value.concat " " (← cmd.elements))]

end Debate.Command
