import BatchLens.Json.Record

/-!
# Tokens

A token is what one side of the connection calls a request, or the progress of one: a number
of 32 bits or a text.
-/

namespace BatchLens

/-- The name of a request or of its progress. -/
inductive Token where
  | number (value : Int)
  | name (value : Text)
  deriving DecidableEq, Repr

namespace Token

/-- Reads a token. -/
def ofJson? : Json → Option Token
  | .string value => some (.name value)
  | json => json.int32?.map .number

/-- Writes a token. -/
def toJson : Token → Json
  | number value => .integer value
  | name value => .string value

end Token

end BatchLens
