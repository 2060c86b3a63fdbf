import Debate.Files.Disk
import Debate.Text.Base64

/-!
# Images

An image goes along with a request as an address that holds its bytes, written to the base 64, and
the type that the end of its name stands for.

* `imageType`     the type of a file;
* `imageAddress`  the address that holds a file.
-/

namespace Debate.CommandLine

open Debate.Files Debate.Text

/-! ## types -/

/-- the ends of names, and the types that they stand for -/
def types : List (String × String) := [("png", "image/png"), ("jpg", "image/jpeg"),
  ("gif", "image/gif"), ("txt", "text/plain"), ("html", "text/html")]

/-- the type that no end of a name stands for -/
def unknownType : String := "application/octet-stream"

/-- the ends of names of files that are compressed; what stands before such an end counts -/
def compressions : List String := ["gz", "Z", "bz2", "xz", "br"]

/-- a name before its last point, and what follows it; points at its start do not count -/
def splitExtension? (name : List Char) : Option (List Char × List Char) :=
  if (name.dropWhile (· = '.')).contains '.' then
    let e := (name.reverse.takeWhile (· ≠ '.')).reverse
    some (name.take (name.length - e.length - 1), e)
  else none

/-- the type that the end of a name stands for -/
def typeOfEnd (e : List Char) : String :=
  ((types.find? fun t => t.1.toList = e.map Char.toLower).map (·.2)).getD unknownType

/-- the type of a file of a name -/
def typeOfName (name : List Char) : String :=
  match splitExtension? name with
  | none => unknownType
  | some (base, e) =>
    if compressions.contains (String.ofList e) then
      ((splitExtension? base).map fun r => typeOfEnd r.2).getD unknownType
    else typeOfEnd e

/-- a character of the scheme of an address -/
def isSchemeChar (c : Char) : Bool := c.isAlphanum || c = '+' || c = '-' || c = '.'

/-- a character that is left out of addresses -/
def isLeftOut (c : Char) : Bool := c = '\t' || c = '\r' || c = '\n'

/-- the scheme and the rest of a name that looks like an address -/
def splitScheme? (name : List Char) : Option (String × List Char) :=
  let cs := (name.dropWhile fun c => c.toNat ≤ 32).filter fun c => !isLeftOut c
  let scheme := cs.takeWhile (· ≠ ':')
  if scheme.length < cs.length ∧ 1 < scheme.length ∧ (scheme.head?.any Char.isAlpha) ∧
      scheme.all isSchemeChar then
    some (String.ofList (scheme.map Char.toLower), cs.drop (scheme.length + 1))
  else none

/-- the schemes whose addresses may end in parameters -/
def schemesWithParameters : List String := ["ftp", "hdl", "prospero", "http", "imap", "https", "shttp",
  "rtsp", "rtsps", "rtspu", "sip", "sips", "mms", "sftp", "tel"]

/-- the path in the rest of an address: what stands before a fragment, a query and parameters -/
def addressPath (scheme : String) (rest : List Char) : List Char :=
  let path := (rest.takeWhile (· ≠ '#')).takeWhile (· ≠ '?')
  if schemesWithParameters.contains scheme then path.takeWhile (· ≠ ';') else path

/-- the type of a file; a name may look like an address, also like one that holds data -/
def imageType (name : String) : String :=
  match splitScheme? name.toList with
  | none => typeOfName name.toList
  | some (scheme, rest) =>
    let path := addressPath scheme rest
    if scheme = "data" then (if path.contains ',' then "text/plain" else unknownType)
    else typeOfName path

/-- the address that holds a file -/
def imageAddress (p : Path) : OnDisk String := do
  let bytes ← Disk.read p
  return "data:" ++ imageType p.name ++ ";base64," ++ String.ofList (base64 bytes)

example : String.ofList (base64 [77, 97, 110, 77]) = "TWFuTQ==" := by decide +kernel
example : imageType "a.b.PNG" = "image/png" := by decide +kernel
example : imageType "a.JPG.bz2" = "image/jpeg" := by decide +kernel

end Debate.CommandLine
