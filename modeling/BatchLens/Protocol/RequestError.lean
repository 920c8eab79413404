import BatchLens.Text.Basic

/-!
# Why a request is refused

A request is refused when it comes before the connection is set up, when its method is not
known, or when its parameters cannot be read.
-/

namespace BatchLens

/-- Why a request is refused. -/
inductive RequestError where
  | notStarted
  | unknownMethod (method : Text)
  | invalidParams
  deriving DecidableEq, Repr

namespace RequestError

/-- The number of the error in the protocol. -/
def code : RequestError → Int
  | notStarted => -32002
  | unknownMethod _ => -32601
  | invalidParams => -32602

/-- The error in words. -/
def message : RequestError → Text
  | notStarted => "expected initialize request".toList
  | unknownMethod method => "unhandled method: ".toList ++ method
  | invalidParams => "invalid params".toList

end RequestError

end BatchLens
