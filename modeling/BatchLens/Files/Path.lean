import BatchLens.Text.Basic

/-!
# Paths

A path is a text with slashes between the names of folders and files. It is kept as it was
written; what it leads to is told by its names. Two slashes in a row count as one, and a single
dot as a name counts as nothing.
-/

namespace BatchLens

namespace Path

/-- Continues a path. Nothing is put between the parts when the first is empty or ends in a
slash. -/
def join (base : Text) (relative : String) : Text :=
  if base.isEmpty || base.getLast? == some '/' then base ++ relative.toList
  else base ++ '/' :: relative.toList

/-- The names along a path. -/
def names (path : Text) : List Text :=
  (Text.split '/' path).filter fun name => !name.isEmpty && name != ['.']

/-- Whether the last of the names that a path is written with is a single dot. -/
def endsInDot (path : Text) : Bool :=
  ((Text.split '/' path).filter fun name => !name.isEmpty).getLast? == some ['.']

/-- Whether a path can lead to a folder only: it ends in a slash or in a single dot. -/
def endsInFolder (path : Text) : Bool :=
  match (Text.split '/' path).getLast? with
  | some last => last.isEmpty || last == ['.']
  | none => false

end Path

end BatchLens
