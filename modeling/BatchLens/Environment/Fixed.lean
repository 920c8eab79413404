import BatchLens.Environment.Basic

/-!
# Fixed environments

A list of variables that is given in advance. Names that differ only in the case of ASCII
letters stand for the same variable. Setting a variable again replaces its value and the
spelling of its name and keeps its place in the list.
-/

namespace BatchLens

/-- A fixed list of variables, in the order in which they were first set. -/
structure FixedEnvironment where
  bindings : List (Text × Text)
  deriving DecidableEq, Repr

namespace FixedEnvironment

/-- The environment without any variable. -/
def empty : FixedEnvironment := ⟨[]⟩

/-- Whether the variable has that name, up to the case of ASCII letters. -/
def isNamed (name : Text) (entry : Text × Text) : Bool :=
  Text.asciiUpper entry.1 == Text.asciiUpper name

/-- Sets a variable. -/
def insert (environment : FixedEnvironment) (name value : Text) : FixedEnvironment :=
  if environment.bindings.any (isNamed name) then
    ⟨environment.bindings.map fun entry => if isNamed name entry then (name, value) else entry⟩
  else
    ⟨environment.bindings ++ [(name, value)]⟩

/-- The environment in which the given variables were set one after the other. -/
def ofList (entries : List (Text × Text)) : FixedEnvironment :=
  entries.foldl (fun environment entry => environment.insert entry.1 entry.2) empty

/-- The place of a variable in the list. -/
def index? (environment : FixedEnvironment) (name : Text) : Option Nat :=
  environment.bindings.findIdx? (isNamed name)

/-- The value of a variable. -/
def value? (environment : FixedEnvironment) (name : Text) : Option Text := do
  let index ← environment.index? name
  let entry ← environment.bindings[index]?
  some entry.2

/-- The environment as the rest of the library sees it. -/
def toEnvironment (environment : FixedEnvironment) : Environment :=
  ⟨environment.value?, environment.bindings⟩

end FixedEnvironment

end BatchLens
