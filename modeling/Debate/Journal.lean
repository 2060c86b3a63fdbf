import Debate.Instant
import Debate.Provider.Exchange

/-!
# The journal

What a run tells the outside world, in order: log messages, lines of the live log, prompts and
requests that are sent, and what is printed.

* `Level`          how serious a log message is;
* `Entry`          one entry of the journal;
* `Entry.liveAt`   a line of the live log, with its time in front;
* `Journal.logged`, `Journal.live`, `Journal.prompts`, `Journal.requests`, `Journal.printed`
                   what a journal holds of each kind.
-/

namespace Debate

/-- how serious a log message is -/
inductive Level where
  | debug
  | info
  | warning
  | error
  deriving DecidableEq, Repr

namespace Level

/-- the name in the log -/
def name : Level → String
  | .debug => "DEBUG"
  | .info => "INFO"
  | .warning => "WARNING"
  | .error => "ERROR"

end Level

/-- one entry of the journal -/
inductive Entry where
  | log (level : Level) (text : String)
  /-- a line of the live log -/
  | live (line : String)
  /-- a prompt that is sent -/
  | prompt (prompt : Value)
  /-- a request that is sent to a service -/
  | request (r : HttpRequest)
  /-- what is printed -/
  | printed (text : String)
  deriving DecidableEq

namespace Entry

/-- a line of the live log, with its time in front -/
def liveAt (now : Instant) (text : String) : Entry := .live ("[" ++ now.timeOfDay ++ "] " ++ text)

end Entry

/-! ## what a journal holds -/

namespace Journal

/-- the messages in the log, each behind its level; those for finding faults only if they are asked
for -/
def logged (verbose : Bool) (es : List Entry) : List String :=
  es.filterMap fun e =>
    match e with
    | .log level text => if level = .debug ∧ !verbose then none else some (level.name ++ ": " ++ text)
    | _ => none

/-- the text of the live log -/
def live (es : List Entry) : String :=
  String.join (es.map fun e =>
    match e with
    | .live line => line ++ "\n"
    | _ => "")

/-- the prompts that were sent -/
def prompts (es : List Entry) : List Value :=
  es.filterMap fun e =>
    match e with
    | .prompt p => some p
    | _ => none

/-- the requests that were sent -/
def requests (es : List Entry) : List HttpRequest :=
  es.filterMap fun e =>
    match e with
    | .request r => some r
    | _ => none

/-- the text that was printed -/
def printed (es : List Entry) : String :=
  String.join (es.map fun e =>
    match e with
    | .printed text => text ++ "\n"
    | _ => "")

theorem live_append (es fs : List Entry) : live (es ++ fs) = live es ++ live fs := by
  simp [live, String.join_append]

end Journal

end Debate
