import Debate.Shell.Machine

/-!
# What a program is given

A program is started with numbers that refer to channels, a directory, and variables. Some programs
start others, in a setting of their own.

* `Setting`              what a program is given;
* `Setting.say`, `Setting.complain`   writing results, and writing complaints;
* `Setting.contents`     everything that can be read at a path, or why nothing can;
* `Launcher`             how a program starts another one;
* `Program`              a program, by what it does with its name and its arguments.
-/

namespace Debate.Shell

open Debate.Files

/-- what a program is given -/
structure Setting where
  numbers : Numbers := []
  here : Place := []
  environment : List (Octets × Octets) := []

namespace Setting

/-- octets are written to what a number refers to -/
def put (s : Setting) (number : Nat) (cs : Octets) : Act Unit :=
  match s.numbers.find? number with
  | some c => write c cs
  | none => pure ()

/-- results are written -/
def say (s : Setting) (cs : Octets) : Act Unit := s.put 1 cs

/-- a line of results is written -/
def sayLine (s : Setting) (cs : Octets) : Act Unit := s.put 1 (cs ++ ['\n'])

/-- a line of complaints is written -/
def complain (s : Setting) (cs : Octets) : Act Unit := s.put 2 (cs ++ ['\n'])

/-- a complaint with the name of the program in front -/
def complaint (s : Setting) (name text : Octets) : Act Unit := s.complain (name ++ ": ".toList ++ text)

/-- the value of a variable -/
def value? (s : Setting) (name : Octets) : Option Octets :=
  (s.environment.find? fun v => v.1 = name).map (·.2)

/-- a channel from which a path is read; a hyphen stands for the input -/
def openInput (s : Setting) (path : Octets) : Act (Except FileError Nat) := do
  let channel ← if path = ['-'] then pure (match s.numbers.find? 0 with
      | some c => Except.ok c
      | none => .error .badDescriptor)
    else openFile s.numbers s.here path .reading
  match channel with
  | .error e => return .error e
  | .ok c =>
    match (← get).channel c with
    | .directory => return .error .isDirectory
    | _ => return .ok c

/-- everything that can be read at a path -/
def contents (s : Setting) (path : Octets) : Act (Except FileError Octets) := do
  match ← s.openInput path with
  | .error e => return .error e
  | .ok c => return .ok (← readAll c)

end Setting

/-- how a program starts another one: its name and arguments, and the status with which it ends -/
abbrev Launcher := Setting → List Octets → Act (Except FileError Nat)

/-- a program, by what it does with its name and its arguments; its status is zero if all went well -/
abbrev Program := Launcher → Setting → Octets → List Octets → Act Nat

/-- the wording of an error -/
def errorText (e : FileError) : Octets := e.message.toList

end Debate.Shell
