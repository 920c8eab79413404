import BatchLens.Json.Record
import BatchLens.Protocol.Position
import BatchLens.Protocol.Token
import BatchLens.Uri.Reader

/-!
# Reading parameters

The records that the parameters of several messages have in common. Tokens for the progress of
a request are read and put aside, since there is none to report; a token that is malformed makes
the parameters unreadable all the same.
-/

namespace BatchLens

/-- Reads the name of a document. -/
def Uri.ofJson? (json : Json) : Option Uri := do
  let text ← json.string?
  Uri.parse? text

/-- Reads a position. -/
def Position.ofJson? (json : Json) : Option Position :=
  match json.fields? ["line", "character"] with
  | some [line, character] => do
      let line ← line.required Json.word?
      let character ← character.required Json.word?
      some { line, character }
  | _ => none

/-- Reads a range of positions. -/
def PositionRange.ofJson? (json : Json) : Option PositionRange :=
  match json.fields? ["start", "end"] with
  | some [start, stop] => do
      let start ← start.required Position.ofJson?
      let stop ← stop.required Position.ofJson?
      some { start, stop }
  | _ => none

namespace Params

/-- Reads which document is meant. -/
def document? (json : Json) : Option Uri :=
  match json.fields? ["uri"] with
  | some [uri] => uri.required Uri.ofJson?
  | _ => none

/-- Whether each of the fields is absent, null or a token. -/
def areTokens (fields : List Json.Field) : Bool :=
  fields.all fun field => (field.optional Token.ofJson?).isSome

end Params

end BatchLens
