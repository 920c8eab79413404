import BatchLens.Environment.Expansion

/-!
# Environments

What the rest of the library needs to know of the variables around it: the value of a name, and
the list of all variables. Where they come from is left to the environment.
-/

namespace BatchLens

/-- Read access to variables. -/
structure Environment where
  /-- The value of the variable that a name stands for. -/
  value? : Text → Option Text
  /-- The names and values of all variables. -/
  bindings : List (Text × Text)

namespace Environment

/-- The text with its references to variables of the environment replaced by their values. -/
def expand (environment : Environment) (text : Text) : Text :=
  Reference.expand environment.value? text

end Environment

end BatchLens
