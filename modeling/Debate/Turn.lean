import Debate.Fault
import Debate.Notepad.Reply
import Debate.Number.Double
import Debate.Persona
import Debate.Value.Shown

/-!
# What a turn makes of a reply

A reply that holds nothing but blanks is a failure of the service. Otherwise what it says becomes
the text of the message, without the marker that ends the discussion, and its edits are made to the
notepad as it was when the turn started. A reply that says nothing but the marker gets a text of its
own.

* `Turn.Result`        the text, the notepad, how long it took, and whether the marker was there;
* `Turn.spokenText`    the text of the message;
* `Turn.ofReply`       the result of a reply.
-/

namespace Debate.Turn

open Debate.Text Debate.Notepad Debate.Number

/-- the result of a turn -/
structure Result where
  text : String
  document : Value
  durationMs : Int
  /-- the reply held the marker that ends the discussion -/
  sawMarker : Bool
  deriving DecidableEq

/-- whether the marker stands in a text -/
def hasMarker (s : String) : Bool := contains marker.toList s.toList

/-- a text without the marker, and without blanks at its ends -/
def withoutMarker (s : String) : String :=
  String.ofList (trimChars (replaceAll marker.toList [] s.toList))

/-- the text of a reply that says nothing but the marker -/
def agreement (p : Persona) : String := "[" ++ p.title ++ " agrees the discussion is complete.]"

/-- the text of the message -/
def spokenText (p : Persona) (raw spoken : String) : String :=
  let text := withoutMarker spoken
  if hasMarker raw ∧ text.isEmpty then agreement p else text

/-- the whole milliseconds between two readings of the clock; a fault if there are too many to
count -/
def milliseconds (start stop : Double) : Except Fault Int :=
  match Double.mul (Double.sub stop start) (Double.ofInt 1000) with
  | .infinite _ => .error (.unsupported "cannot convert float infinity to integer")
  | x =>
    match x.truncate with
    | some n => .ok n
    | none => .error (.badValue "cannot convert float NaN to integer")

/-- the text of a reply; a reply of another type is a fault -/
def replyText (reply : Value) : Except Fault String :=
  if reply.isVoid then .error (.provider "Empty response from API.")
  else
    match reply with
    | .text s => if isAllBlank s then .error (.provider "Empty response from API.") else .ok s
    | v => .error (.unsupported ("'" ++ v.kind ++ "' object has no attribute 'strip'"))

/-- what a reply says and the edits it makes -/
def parsed (raw : String) : Except Fault Reply :=
  match Reply.read raw with
  | .ok r => .ok r
  | .error e => .error (.badValue e.message)

/-- the result of a reply that was read, with the notepad after its edits -/
def ofReply (p : Persona) (document : Value) (raw : String) (r : Reply) (durationMs : Int) :
    Result where
  text := spokenText p raw r.spoken
  document := document
  durationMs := durationMs
  sawMarker := hasMarker raw

end Debate.Turn
