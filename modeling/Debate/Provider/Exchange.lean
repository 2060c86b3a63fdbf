import Debate.Number.Double
import Debate.Value.Access
import Debate.Value.Printer
import Debate.Value.Reader

/-!
# Exchanges with a service

A request goes to an address, and a response comes back: a status with a body, or nothing because
the connection failed, took too long, or was interrupted. A response with an error status, like one
that never came, is a failure of the service; its wording is looked for in the body.

* `HttpRequest`          what is sent;
* `HttpResponse`         what comes back;
* `HttpResponse.detail`  the wording in the body of an error;
* `HttpResponse.read`    the value in the body, or why there is none.
-/

namespace Debate

open Debate.Number

/-- what is sent to a service -/
structure HttpRequest where
  method : String
  url : String
  body : Option Value := none
  headers : Option Fields := none
  parameters : Option Fields := none
  deriving DecidableEq

/-- how an exchange ends -/
inductive Arrival where
  /-- a status, the value in the body, and the body itself -/
  | answered (status : Int) (json : Value) (body : String)
  /-- an answer whose body cannot be decoded, for this reason -/
  | undecodable (text : String)
  /-- the connection failed -/
  | broken (text : String)
  | timedOut
  /-- nothing comes, and the run is cancelled meanwhile -/
  | interrupted
  deriving DecidableEq

/-- what comes back from a service, and how long it takes -/
structure HttpResponse where
  seconds : Double := Double.zero
  arrival : Arrival
  deriving DecidableEq

namespace HttpResponse

/-- the wording in the body of an error: its error's message, or its error; the start of a body
that holds no value; otherwise the status -/
def detail (status : Int) (body : String) : Except Fault String :=
  let fallback := "HTTP " ++ toString status
  match Value.ofJson body with
  | .error .malformed =>
    let start := String.ofList (body.toList.take 500)
    .ok (if start.isEmpty then fallback else start)
  | .error (.hugeInteger n) => .error (.badValue (Value.hugeIntegerText n))
  | .ok v =>
    match v.get? "error" with
    | some (.object fs) =>
      let message := Fields.getD fs "message" .null
      .ok (if message.isVoid then fallback else message.shown)
    | some (.text s) => .ok (if s.isEmpty then fallback else s)
    | _ => .ok fallback

/-- a failure of a service -/
def failure (service text : String) : Fault := .provider (service ++ " API Error: " ++ text)

/-- the value in the body of a response, or why there is none -/
def read (service : String) : Arrival → Except Fault Value
  | .answered status json body =>
    if 400 ≤ status then
      match detail status body with
      | .ok text => .error (failure service text)
      | .error e => .error e
    else .ok json
  | .undecodable text => .error (.badValue text)
  | .broken text => .error (failure service text)
  | .timedOut => .error (failure service "request timed out")
  | .interrupted => .error .cancelled

end HttpResponse

end Debate
