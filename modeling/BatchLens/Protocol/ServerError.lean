import BatchLens.Text.Basic

/-!
# Why a server ends

A server that does not end as agreed tells why: reading or writing failed, the client's first
request could not be understood, a message came out of order, or the client went away.
-/

namespace BatchLens

/-- Why a server ended other than as agreed. -/
inductive ServerError where
  | io (message : Text)
  | json (message : Text)
  | protocol (message : Text)
  | disconnected
  deriving DecidableEq, Repr

namespace ServerError

/-- The error in words. -/
def display : ServerError → Text
  | io message => "IO error: ".toList ++ message
  | json message => "JSON error: ".toList ++ message
  | protocol message => "Protocol error: ".toList ++ message
  | disconnected => "Client disconnected".toList

/-- The error that this one goes back to, in words. -/
def source? : ServerError → Option Text
  | io message => some message
  | json message => some message
  | _ => none

end ServerError

end BatchLens
