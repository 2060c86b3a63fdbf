import Debate.Value.Shown

/-!
# Faults

Why an operation ends without a result. A fault is a cause; its wording is made from the cause.

* `FileError`       why a file operation fails;
* `Fault`           the causes;
* `Fault.message`   the wording.
-/

namespace Debate

open Debate.Text

/-- why a file operation fails -/
inductive FileError where
  | missing
  | exists
  | isDirectory
  | notDirectory
  | denied
  | nameTooLong
  | noSpace
  | busy
  | notEmpty
  | badDescriptor
  | invalid
  deriving DecidableEq, Repr

namespace FileError

/-- the number of the error -/
def code : FileError → Nat
  | .missing => 2
  | .badDescriptor => 9
  | .denied => 13
  | .busy => 16
  | .exists => 17
  | .notDirectory => 20
  | .isDirectory => 21
  | .invalid => 22
  | .noSpace => 28
  | .nameTooLong => 36
  | .notEmpty => 39

/-- the wording of the error -/
def message : FileError → String
  | .missing => "No such file or directory"
  | .exists => "File exists"
  | .isDirectory => "Is a directory"
  | .notDirectory => "Not a directory"
  | .denied => "Permission denied"
  | .nameTooLong => "File name too long"
  | .noSpace => "No space left on device"
  | .busy => "Device or resource busy"
  | .notEmpty => "Directory not empty"
  | .badDescriptor => "Bad file descriptor"
  | .invalid => "Invalid argument"

end FileError

/-- why an operation ends without a result -/
inductive Fault where
  /-- the settings are of no use; nothing has happened yet -/
  | configuration (message : String)
  /-- a service or its model failed -/
  | provider (message : String)
  /-- the run was cancelled -/
  | cancelled
  /-- the task that waits for the run was called off -/
  | aborted
  /-- a value of the right type that is not allowed -/
  | badValue (message : String)
  /-- a required key is missing -/
  | missingKey (key : Value)
  /-- bytes that are no text -/
  | notText
  /-- a file operation failed -/
  | file (error : FileError) (paths : List String)
  /-- something else went wrong, for instance with a value of a type that is of no use -/
  | unsupported (message : String)
  deriving DecidableEq

namespace Fault

/-- the wording of a fault -/
def message : Fault → String
  | .configuration m | .provider m | .badValue m | .unsupported m => m
  | .cancelled | .aborted => ""
  | .missingKey key => key.literal
  | .notText => "invalid UTF-8"
  | .file e paths =>
    "[Errno " ++ toString e.code ++ "] " ++ e.message ++
      (if paths.isEmpty then "" else ": " ++ " -> ".intercalate (paths.map quoted))

end Fault

end Debate
