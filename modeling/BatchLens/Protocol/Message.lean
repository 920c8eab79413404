import BatchLens.Json.Representable
import BatchLens.Protocol.Answer
import BatchLens.Protocol.RequestError
import BatchLens.Protocol.Token

/-!
# Messages

What an editor sends: requests, which have a reply; notifications, which have none; and
responses to requests of the server. A message is taken for the first of these kinds that it
can be read as, responses before notifications. Keys that a kind does not know are left aside.
-/

namespace BatchLens

/-- A message of an editor. -/
inductive Message where
  | request (id : Token) (method : Text) (params : Json)
  | response (id : Token)
  | notification (method : Text) (params : Json)
  deriving Repr

/-- What the server replies to a request. -/
structure Reply where
  id : Token
  outcome : Except RequestError Json

namespace Message

/-- How deep arrays and objects may nest in a message. -/
def room : Nat := 127

/-- Parameters, in which of a repeated key the last value counts. -/
def params? (json : Json) : Option Json := some json.withoutRepeats

/-- Reads a request. -/
def request? (json : Json) : Option Message :=
  match json.fields? ["id", "method", "params"] with
  | some [id, method, params] => do
      let id ← id.required Token.ofJson?
      let method ← method.required Json.string?
      let params ← params.withDefault .null params?
      some (.request id method params)
  | _ => none

/-- Reads the error of a response. -/
def error? (json : Json) : Option Unit :=
  match json.fields? ["code", "message", "data"] with
  | some [code, message, data] => do
      let _ ← code.required Json.int32?
      let _ ← message.required Json.string?
      let _ ← data.optional some
      some ()
  | _ => none

/-- Reads a response. -/
def response? (json : Json) : Option Message :=
  match json.fields? ["id", "result", "error"] with
  | some [id, result, error] => do
      let id ← id.required Token.ofJson?
      let _ ← result.optional some
      let _ ← error.optional error?
      some (.response id)
  | _ => none

/-- Reads a notification. -/
def notification? (json : Json) : Option Message :=
  match json.fields? ["method", "params"] with
  | some [method, params] => do
      let method ← method.required Json.string?
      let params ← params.withDefault .null params?
      some (.notification method params)
  | _ => none

/-- Reads a message. -/
def ofJson? (json : Json) : Option Message :=
  (request? json).or ((response? json).or (notification? json))

/-- The message that a text spells. -/
def parse? (text : Text) : Option Message := do
  let json ← Json.parseWithin? room text
  if json.isRepresentable then ofJson? json else none

end Message

namespace Reply

/-- An error with its number and its words. -/
def errorJson (error : RequestError) : Json :=
  .object [
    Json.member "code" (.integer error.code),
    Json.member "message" (.string error.message)]

/-- A reply as it is sent. -/
def toJson (reply : Reply) : Json :=
  .object [
    Json.member "jsonrpc" (.text "2.0"),
    Json.member "id" reply.id.toJson,
    match reply.outcome with
    | .ok result => Json.member "result" result
    | .error error => Json.member "error" (errorJson error)]

end Reply

end BatchLens
