import Debate.Configuration.Loading
import Debate.Text.Blank
import Debate.Text.Name
import Debate.Yaml.Resolve

/-!
# Documents and their libraries

A document may begin with front matter between two marks of three hyphens; the body is what follows.
The marks may stand anywhere, also inside a line. Without both marks the whole text is the body, and
so it is when the front matter cannot be read, which is worth a warning.

Persona documents and profiles stand in folders of the state directory, and in folders of a second
directory that several projects may share. The state directory is looked into first. Since a name
becomes part of a path, it is checked before.

* `Document`         the front matter and the body;
* `Document.parts?`  a text cut at its marks;
* `Document.read`    the document that a text writes;
* `Document.load`    the document in a file;
* `Library`          the two directories;
* `Library.find?`    the file of a document;
* `Library.persona`  the document of a persona;
* `Library.profile`  the settings of a profile.
-/

namespace Debate

open Debate.Files Debate.Text

/-! ## documents -/

/-- a document -/
structure Document where
  /-- the front matter, an empty object if there is none -/
  frontMatter : Value := .object []
  body : String := ""
  deriving DecidableEq

namespace Document

/-- the mark in front of the front matter and behind it -/
def mark : List Char := ['-', '-', '-']

/-- the front matter and the body of a text that begins with a mark and has another one -/
def parts? (s : String) : Option (String × String) := do
  let rest ← dropLiteral? mark s.toList
  let (inside, body) ← cutAt? mark rest
  return (String.ofList inside, String.ofList body)

/-- the document that a text writes; nothing if its front matter cannot be read -/
def read (s : String) : Except Fault (Option Document) :=
  match parts? s with
  | none => .ok (some { body := s })
  | some (inside, body) =>
    match Yaml.read inside with
    | .ok v =>
      .ok (some { frontMatter := v.orElse (.object []), body := trim body })
    | .error .malformed => .ok none
    | .error (.badNumber message) => .error (.badValue message)
    | .error .excessive => .error (.unsupported "number or depth out of bounds")

/-- the document in a file; a missing file holds an empty one -/
def load (p : Path) : Loading Document := do
  if ← Loading.onDisk (Disk.«exists» p) then
    let s ← Loading.onDisk (Disk.readText p)
    match ← Loading.ofExcept (read s) with
    | some d => return d
    | none => do
      Loading.log .warning ("YAML parse error in " ++ p.text)
      return { body := s }
  else return {}

end Document

/-! ## libraries -/

/-- the directories in which documents stand -/
structure Library where
  state : Path
  shared : Option Path := none
  deriving DecidableEq, Repr

namespace Library

/-- a name of a kind of document that may become part of a path -/
def checkedName (kind : String) (name : Value) : Except Fault String :=
  match name with
  | .text s => if isName s then .ok s else .error (.configuration (badName kind s))
  | v => .error (.unsupported ("expected string or bytes-like object, got '" ++ v.kind ++ "'"))

/-- the file of a document in a directory -/
def fileIn (directory : Path) (folder file : String) : Path := (directory.child folder).child file

/-- the first of the files that is there -/
def firstPresent? : List Path → OnDisk (Option Path)
  | [] => return none
  | p :: ps => do if ← Disk.«exists» p then return some p else firstPresent? ps

/-- the file of a document -/
def find? (l : Library) (folder file : String) : Loading (Option Path) :=
  Loading.onDisk (firstPresent? ((l.state :: l.shared.toList).map fun d => fileIn d folder file))

/-- the document of a persona, an empty one if there is none -/
def persona (l : Library) (name : Value) : Loading Document := do
  let name ← Loading.ofExcept (checkedName "persona" name)
  match ← l.find? "personas" (name ++ ".md") with
  | some p => Document.load p
  | none => return {}

/-- the settings of a profile, none if there is none -/
def profile (l : Library) (name : String) : Loading Value := do
  let name ← Loading.ofExcept (checkedName "profile" (.text name))
  match ← l.find? "profiles" (name ++ ".json") with
  | some p => Loading.readRecordOr p (.object [])
  | none => do
    Loading.log .warning ("Profile '" ++ name ++ "' not found")
    return .object []

end Library

end Debate
