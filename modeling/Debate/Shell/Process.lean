import Debate.Number.Double
import Debate.Shell.Octets

/-!
# Processes and signals

What a program does as far as others can see it: what it writes and when, how long it takes, and
how it ends. Time passes only while a program sleeps.

* `Ending`           how a process ends;
* `Written`          bytes that are written to one of the two streams of output;
* `Process`          a process from its start to its end;
* `Process.until?`   a process that is stopped before its end;
* `Signal.names`     the names of the signals, by number;
* `Signal.number?`   the number of a signal that a text names;
* `Signal.wording?`  what is said of a command that a signal has killed;
* `Signal.isHarmless`   whether a signal does nothing to a process that does not expect it.
-/

namespace Debate.Shell

open Debate.Number

/-- how a process ends -/
inductive Ending where
  | exited (code : Nat)
  | killed (signal : Nat)
  deriving DecidableEq, Repr

/-- the number of an ending: the code, or the signal with a minus sign -/
def Ending.number : Ending → Int
  | .exited code => code
  | .killed signal => -(signal : Int)

/-- the streams of output -/
inductive Stream where
  | results
  | complaints
  deriving DecidableEq, Repr

/-- bytes that are written -/
structure Written where
  /-- how long after the start -/
  after : Double
  stream : Stream
  bytes : List UInt8
  deriving DecidableEq, Repr

/-- whether bytes are written as complaints -/
def Written.isComplaint (w : Written) : Bool := w.stream = .complaints

/-- a process from its start to its end -/
structure Process where
  written : List Written
  seconds : Double
  ending : Ending
  deriving DecidableEq, Repr

namespace Process

/-- the bytes on one of the streams -/
def bytes (p : Process) (stream : Stream) : List UInt8 :=
  (p.written.filter fun w => w.stream = stream).flatMap (·.bytes)

/-- what a process has written when it is stopped, if it does not end before -/
def until? (p : Process) (stop : Double) : Option (List Written) :=
  if Double.lt p.seconds stop then none else some (p.written.filter fun w => Double.lt w.after stop)

end Process

end Debate.Shell

/-! ## signals -/

namespace Debate.Shell.Signal

/-- the names of the signals, from the first on -/
def names : List String :=
  ["HUP", "INT", "QUIT", "ILL", "TRAP", "ABRT", "BUS", "FPE", "KILL", "USR1", "SEGV", "USR2", "PIPE",
    "ALRM", "TERM", "STKFLT", "CHLD", "CONT", "STOP", "TSTP", "TTIN", "TTOU", "URG", "XCPU", "XFSZ",
    "VTALRM", "PROF", "WINCH", "IO", "PWR", "SYS"]

/-- the name of a signal -/
def name? (n : Nat) : Option String := if n = 0 then none else names[n - 1]?

/-- the number of a signal that a text names, whatever its case; zero stands for none -/
def number? (cs : Octets) : Option Nat :=
  match Octets.natural? cs with
  | some n => if n ≤ 64 then some n else none
  | none =>
    let s := String.ofList (cs.map Char.toUpper)
    if s = "EXIT" then some 0 else (names.findIdx? (· = s)).map (· + 1)

/-- what is said of a command that a signal has killed; nothing of the usual ways to stop one -/
def wording? (n : Nat) : Option String :=
  match n with
  | 1 => some "Hangup"
  | 3 => some "Quit"
  | 4 => some "Illegal instruction"
  | 5 => some "Trace/breakpoint trap"
  | 6 => some "Aborted"
  | 7 => some "Bus error"
  | 8 => some "Floating point exception"
  | 9 => some "Killed"
  | 10 => some "User defined signal 1"
  | 11 => some "Segmentation fault"
  | 12 => some "User defined signal 2"
  | 14 => some "Alarm clock"
  | 15 => some "Terminated"
  | _ => none

/-- whether a signal does nothing to a process that does not expect it -/
def isHarmless (n : Nat) : Bool := [0, 17, 18, 23, 28].contains n

/-- whether a signal makes a process wait -/
def stops (n : Nat) : Bool := [19, 20, 21, 22].contains n

end Debate.Shell.Signal
