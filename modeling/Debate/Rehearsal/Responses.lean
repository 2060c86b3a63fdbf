import Debate.Provider.Reply
import Debate.Rehearsal

/-!
# Rehearsals with given responses

In such a rehearsal the provider that the settings choose is asked. The responses of services are
given beforehand; a command is run over a file tree. When a response is an interruption, the run is
cancelled while it is waited for.

* `ask`   the line that comes of asking for the reply of a call.
-/

namespace Debate.Rehearsal

/-- the line that comes of asking a provider -/
def lineOf (i : Inquiry Value) : Line where
  seconds := i.seconds
  entries := i.entries
  cues := if i.interrupted then [("cancel", .command (return .cancel))] else []
  ending :=
    if i.interrupted then .hangs
    else
      match i.outcome with
      | .ok v => .replies v
      | .error e => .fails e

/-- the line that comes of asking for the reply of a call, and what is left to ask with -/
def ask (now : Instant) (c : Call) (means : Means) : Line × Means :=
  match c.voice with
  | .given name => ({ ending := .fails (.unsupported ("no service " ++ name)) }, means)
  | .chosen p =>
    let i := p.generate now none c.prompt means
    (lineOf i, i.left)

end Debate.Rehearsal
