import Debate.CommandLine.Session
import Std.Time.Format

/-!
# The program

The program reads the files that a command line is about, carries the command line out over them, and
writes back what has changed. What is printed goes to standard output and the log to standard error.
Responses of services come in on standard input, one value a line; the program reaches no network of
its own.

* `main`   the program.
-/

namespace Debate.Main

open Debate.CommandLine Debate.Files

/-- the text of a place -/
def placeText (place : Place) : String := "/".intercalate place

/-- a tree with what stands at a place below the directory at hand -/
partial def gather (t : Tree) (place : Place) : IO Tree := do
  let path := (← IO.currentDir) / placeText place
  if ← path.isDir then
    let mut t := t.plant place (.directory false)
    for e in ← path.readDir do
      t ← gather t (place ++ [e.fileName])
    return t
  else if ← path.pathExists then
    return t.plant place (.file (← IO.FS.readBinFile path).toList)
  else return t

/-- a tree with what stands at a path, unless it starts at the root -/
def gatherPath (t : Tree) (p : Path) : IO Tree :=
  if p.root = "" ∧ p.names ≠ [] then gather t p.names else return t

/-- the tree that a command line is about -/
def gatherAll (a : Arguments) (home : String) : IO Tree := do
  let config := Path.ofString a.config
  let mut t ← gatherPath {} config
  let loaded := (ExceptT.run (Configured.load home config none)).run { disk := { tree := t } }
  if let .ok c := loaded.1 then
    t ← gatherPath t c.library.state
    for p in c.library.shared.toList do
      t ← gatherPath t p
  if let .run d := a.errand then
    for name in d.notepad.toList ++ d.image.toList do
      t ← gatherPath t (Path.ofString name)
  return t

/-- what is different in the second tree is written to the files -/
def writeBack (before after : Tree) : IO Unit := do
  for e in after.entries do
    match e.2 with
    | .directory _ => IO.FS.createDirAll (placeText e.1)
    | .file bytes =>
      if before.get? e.1 ≠ some e.2 then
        if 1 < e.1.length then IO.FS.createDirAll (placeText e.1.dropLast)
        IO.FS.writeBinFile (placeText e.1) ⟨bytes.toArray⟩
  for f in before.files do
    if (after.get? f.1).isNone then IO.FS.removeFile (placeText f.1)

/-- the responses on standard input -/
partial def readResponses (input : IO.FS.Stream) : IO (List HttpResponse) := do
  let line ← input.getLine
  if line.isEmpty then return []
  let arrival : Arrival := match Value.ofJson line with
    | .ok v => .answered 200 v line
    | .error .malformed => .undecodable "Expecting value"
    | .error (.hugeInteger n) => .undecodable (Value.hugeIntegerText n)
  return { arrival } :: (← readResponses input)

/-- the time -/
def readTime : IO Instant := do
  let t ← Std.Time.Timestamp.now
  return { seconds := t.val.second.val, micros := (t.val.nano.val / 1000).toNat }

/-- ids that begin with random digits -/
def readIds : IO (Nat → String) := do
  let bytes ← IO.getRandomBytes 12
  let digits := bytes.toList.flatMap fun b => Nat.toDigits 16 (256 + b.toNat) |>.drop 1
  return fun n => String.ofList digits ++ "-" ++ toString n

/-- the values of the variables that the program knows -/
def readEnvironment : IO Environment := do
  let names := ["GEMINI_API_KEY", "API_KEY", "OPENAI_API_KEY", "OLLAMA_HOST"]
  let values ← names.filterMapM fun name => do
    return (← IO.getEnv name).map fun v => (name, v)
  return { bindings := values }

/-- how the arguments are written -/
def usage : String :=
  "usage: duet.py [--config FILE] [-v] run REQUEST [--name NAME] [--profile PROFILE]\n" ++
  "         [--mode fixed|agent-driven] [--turns N] [--provider PROVIDER]\n" ++
  "         [--notepad FILE] [--image FILE]\n" ++
  "       duet.py [--config FILE] [-v] retry --name NAME [--profile PROFILE] [--provider PROVIDER]\n" ++
  "       duet.py [--config FILE] [-v] models [--profile PROFILE] [--provider PROVIDER]"

/-- a command line that is understood -/
def carryOut (a : Arguments) (words : List String) : IO UInt32 := do
  let home := ((← IO.getEnv "HOME").getD "")
  let tree ← gatherAll a home
  let stdin ← IO.getStdin
  let responses ← if ← stdin.isTty then pure [] else readResponses stdin
  let s : Session := {
    desk := { disk := { tree } }
    supply := { idOf := ← readIds, now := ← readTime }
    environment := ← readEnvironment
    home }
  let r := s.call words responses
  IO.print (Journal.printed r.journal)
  for line in Journal.logged r.verbose r.journal do
    IO.eprintln line
  if let .ended (.error e) := r.result then
    IO.eprintln e.message
  writeBack tree r.session.desk.disk.tree
  return r.result.code.toUInt32

end Debate.Main

/-- the program -/
def main (words : List String) : IO UInt32 := do
  match Debate.CommandLine.Arguments.read words with
  | .ok a => Debate.Main.carryOut a words
  | .error .help => do
    IO.println Debate.Main.usage
    return 0
  | .error .usage => do
    IO.eprintln Debate.Main.usage
    return 2
