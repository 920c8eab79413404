import BatchLens.Environment.Basic
import BatchLens.Text.Utf8

/-!
# Process environments

The variables that a process was started with: names and values as bytes, in the order of
the system. A name that is looked up is taken as it is first, and up to the case of ASCII
letters if there is no readable variable of exactly that name. Variables whose name or value
is not well-formed UTF-8 are passed over. The empty name, and names with an equals sign or a
null character, cannot name a variable.
-/

namespace BatchLens

/-- A variable of a process. -/
structure ProcessVariable where
  name : List UInt8
  value : List UInt8
  deriving DecidableEq, Repr

namespace ProcessVariable

/-- The variable that a name and a value with an equals sign between them stand for. An equals
sign in front belongs to the name. -/
def ofBytes? : List UInt8 → Option ProcessVariable
  | [] => none
  | first :: rest =>
      match rest.span (· != 61) with
      | (_, []) => none
      | (name, _ :: value) => some ⟨first :: name, value⟩

/-- The variable with a readable name and value. -/
def ofText (name value : Text) : ProcessVariable := ⟨name.toUtf8, value.toUtf8⟩

/-- The name and the value, if both are readable. -/
def readable? (entry : ProcessVariable) : Option (Text × Text) := do
  let name ← Text.ofUtf8? entry.name
  let value ← Text.ofUtf8? entry.value
  some (name, value)

end ProcessVariable

/-- The variables of a process. -/
structure ProcessEnvironment where
  entries : List ProcessVariable
  deriving DecidableEq, Repr

namespace ProcessEnvironment

/-- Sets a variable; one of exactly the same name is replaced in its place. -/
def insert (environment : ProcessEnvironment) (entry : ProcessVariable) : ProcessEnvironment :=
  if environment.entries.any (·.name == entry.name) then
    ⟨environment.entries.map fun other => if other.name == entry.name then entry else other⟩
  else
    ⟨environment.entries ++ [entry]⟩

/-- The environment in which the given variables were set one after the other. -/
def ofList (entries : List ProcessVariable) : ProcessEnvironment :=
  entries.foldl insert ⟨[]⟩

/-- The environment from the block in which a system keeps it, where a null byte ends each
variable. -/
def ofBlock (block : List UInt8) : ProcessEnvironment :=
  ⟨(block.splitOn 0).filterMap ProcessVariable.ofBytes?⟩

/-- The readable variables. -/
def bindings (environment : ProcessEnvironment) : List (Text × Text) :=
  environment.entries.filterMap ProcessVariable.readable?

/-- The readable value of the variable of exactly that name. -/
def exactValue? (environment : ProcessEnvironment) (name : Text) : Option Text := do
  let entry ← environment.entries.find? (·.name == name.toUtf8)
  Text.ofUtf8? entry.value

/-- Whether a name can name a variable. -/
def isName (name : Text) : Bool :=
  !name.isEmpty && !name.contains '=' && !name.contains '\x00'

/-- The value of a variable. -/
def value? (environment : ProcessEnvironment) (name : Text) : Option Text :=
  if isName name then
    match environment.exactValue? name with
    | some value => some value
    | none =>
        (environment.bindings.find? fun entry =>
          Text.sameIgnoringAsciiCase entry.1 name).map (·.2)
  else none

/-- The environment as the rest of the library sees it. -/
def toEnvironment (environment : ProcessEnvironment) : Environment :=
  ⟨environment.value?, environment.bindings⟩

end ProcessEnvironment

end BatchLens
