import BatchLens.Text.Basic

/-!
# JSON values

Objects keep their members in the order in which they were written, and may hold one key
several times; what that means is decided by whoever reads the object. A number that is written
without fraction and exponent and fits into 64 bits is an integer; every other number keeps
its spelling.

A string may spell one half of a surrogate pair alone. Such a string is well-formed and stands
for no text, which does no harm where nobody asks for its value. It is read as `unpaired`, and
so is an object with such a key.
-/

namespace BatchLens

/-- A JSON value. -/
inductive Json where
  | null
  | bool (value : Bool)
  | integer (value : Int)
  | decimal (spelling : Text)
  | string (value : Text)
  | unpaired
  | array (items : List Json)
  | object (members : List (Text × Json))
  deriving Repr

namespace Json

/-- A string value. -/
def text (value : String) : Json := string value.toList

/-- An integer value from a natural number. -/
def nat (value : Nat) : Json := integer value

/-- A member of an object. -/
def member (key : String) (value : Json) : Text × Json := (key.toList, value)

end Json

end BatchLens
