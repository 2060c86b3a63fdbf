import Debate.Files.Disk
import Debate.Text.Digit
import Debate.Text.Split
import Debate.Text.Utf8
import Debate.Value.Printer
import Debate.Value.Reader

/-!
# Texts and records in files

A text is written in full beside the file it is meant for and then moved there, so that the file
holds the old text or the new one and nothing in between; whatever fails, no file is left behind. A
line is added to a file in one step. Reading unifies line ends; a missing file reads as empty.

* `Disk.writeText`     a text put in a file;
* `Disk.writeContent`  a value put in a file, which has to be a text;
* `Disk.writeRecord`   a value put in a file, over several lines;
* `Disk.appendRecord`  a value as one more line of a file;
* `Disk.readText`      the text of a file;
* `Disk.readRecord`    the value in a file, or why there is none.
-/

namespace Debate.Files.Disk

open Debate.Text

/-! ## writing -/

/-- the first number whose name is free in a directory -/
def freeNumber (t : Tree) (nameOf : Nat → Path) : Nat → Nat → Nat
  | 0, n => n
  | fuel + 1, n =>
    match t.stat (nameOf n) with
    | .ok _ => freeNumber t nameOf fuel (n + 1)
    | .error _ => n

/-- a path beside another one at which nothing stands -/
def besidePath (t : Tree) (p : Path) : Path :=
  let nameOf (n : Nat) := p.parent.child ("." ++ p.name ++ "." ++ padded 8 n)
  nameOf (freeNumber t nameOf t.entries.length 0)

/-- bytes put in a file by way of another one; they are asked for when that one is there -/
def replaceWith (p : Path) (content : Except Fault (List UInt8)) : OnDisk Unit := do
  ensureDirectory p.parent
  let d ← get
  let beside := besidePath d.tree p
  create beside
  let filled ← attempt do
    fill beside (← content)
    rename beside p
  match filled with
  | .ok () => return ()
  | .error e =>
    if ← «exists» beside then remove beside
    throw e

/-- a text put in a file -/
def writeText (p : Path) (s : String) : OnDisk Unit := replaceWith p (.ok (Utf8.encode s))

/-- the bytes of a value, which has to be a text -/
def bytesOf : Value → Except Fault (List UInt8)
  | .text s => .ok (Utf8.encode s)
  | v => .error (.unsupported ("write() argument must be str, not " ++ v.kind))

/-- a value put in a file, which has to be a text -/
def writeContent (p : Path) (v : Value) : OnDisk Unit := replaceWith p (bytesOf v)

theorem writeContent_text (p : Path) (s : String) : writeContent p (.text s) = writeText p s := rfl

/-- the text that a value is written as, unless an integer of it is too long to be written -/
def written (v : Value) (s : String) : Except Fault String :=
  match v.tooLong? with
  | some _ => .error (.badValue Value.wideIntegerText)
  | none => .ok s

/-- a value put in a file, over several lines; nothing is touched if it cannot be written -/
def writeRecord (p : Path) (v : Value) : OnDisk Unit := do
  writeText p (← written v v.toIndented)

/-- the line that a value makes -/
def recordLine (v : Value) : String := v.toCompact ++ "\n"

/-- a value as one more line of a file -/
def appendRecord (p : Path) (v : Value) : OnDisk Unit := do
  ensureDirectory p.parent
  append p (Utf8.encode (← written v (recordLine v)))

/-! ## reading -/

/-- the text of bytes, with line feeds only -/
def textOf (bytes : List UInt8) : Except Fault String :=
  match Utf8.decode? bytes with
  | some s => .ok (String.ofList (unifyNewlines s.toList))
  | none => .error .notText

/-- the text of a file that is there -/
def readPresent (p : Path) : OnDisk String := do
  textOf (← read p)

/-- the text of a file; a missing one is empty -/
def readText (p : Path) : OnDisk String := do
  if ← «exists» p then readPresent p else return ""

/-- what a file holds -/
inductive Stored where
  /-- there is no such file -/
  | absent
  /-- its text is no record -/
  | malformed
  | value (v : Value)
  deriving DecidableEq

/-- the value in a file -/
def readRecord (p : Path) : OnDisk Stored := do
  if ← «exists» p then
    match Value.ofJson (← readPresent p) with
    | .ok v => return .value v
    | .error .malformed => return .malformed
    | .error (.hugeInteger n) => throw (.badValue (Value.hugeIntegerText n))
  else return .absent

/-- the warning about a text that is no record -/
def malformedWarning (p : Path) : String := "Invalid JSON in " ++ p.text

/-- the value in a file, another value in its place if it holds none, and a warning if its text is
no record -/
def readRecordOr (p : Path) (default : Value) : OnDisk (Value × List String) := do
  match ← readRecord p with
  | .absent => return (default, [])
  | .malformed => return (default, [malformedWarning p])
  | .value v => return (v, [])

end Debate.Files.Disk
