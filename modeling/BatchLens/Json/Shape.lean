import BatchLens.Json.Record

/-!
# Shapes

What a value has to look like where it is checked and not kept. A shape says of a record which
fields it has, in their order, and which of them have to be there; the value of a field has a
shape again.
-/

namespace BatchLens.Json

/-- Whether a field has to be there. -/
inductive Presence where
  /-- The field has to be there. -/
  | required
  /-- The field may be null or have no key. -/
  | optional
  /-- The field may be left out, also at the end of an array. -/
  | omissible
  deriving DecidableEq, Repr

/-- What a value has to look like. -/
inductive Shape where
  /-- Any value. -/
  | any
  | bool
  | string
  /-- A natural number of 32 bits. -/
  | word
  /-- An integer of 32 bits. -/
  | int32
  /-- One of some names. A name may also be the one key of an object, with null for its value. -/
  | name (names : List String)
  | list (item : Shape)
  /-- Null, or a value of a shape. -/
  | nullable (shape : Shape)
  | either (first second : Shape)
  /-- A record, which is written as an object or as an array. -/
  | record (fields : List (String × Presence × Shape))
  /-- A record that has to be written as an object. -/
  | object (fields : List (String × Presence × Shape))

namespace Shape

/-- Whether a value is one of some names. -/
def isName (names : List String) : Json → Bool
  | .string value => names.contains (String.ofList value)
  | .object [(key, .null)] => names.contains (String.ofList key)
  | _ => false

/-- Whether a field has the presence it needs and, if it is given, a value that passes a test. -/
def fits (test : Json → Bool) : Presence → Field → Bool
  | .required, field => (field.required (Option.guard test)).isSome
  | .optional, field => (field.optional (Option.guard test)).isSome
  | .omissible, .given value => test value
  | .omissible, _ => true

mutual

/-- Whether a value has a shape. -/
def accepts : Shape → Json → Bool
  | any, _ => true
  | bool, json => json.bool?.isSome
  | string, json => json.string?.isSome
  | word, json => json.word?.isSome
  | int32, json => json.int32?.isSome
  | name names, json => isName names json
  | list item, .array items => items.all fun json => accepts item json
  | list _, _ => false
  | nullable _, .null => true
  | nullable shape, json => accepts shape json
  | either first second, json => accepts first json || accepts second json
  | record fields, json =>
      match json.fields? (fields.map (·.1)) with
      | some found => acceptsFields fields found
      | none => false
  | object fields, json =>
      match json.objectFields? (fields.map (·.1)) with
      | some found => acceptsFields fields found
      | none => false

/-- Whether the fields that were found are those of a record. -/
def acceptsFields : List (String × Presence × Shape) → List Field → Bool
  | [], _ => true
  | _ :: _, [] => false
  | (_, presence, shape) :: fields, field :: found =>
      fits (fun json => accepts shape json) presence field && acceptsFields fields found

end

/-- The value of a named field in a record of this shape. -/
def value? (shape : Shape) (name : String) (json : Json) : Option Json := do
  let fields ← match shape with
    | record fields | object fields => some fields
    | _ => none
  let names := fields.map (·.1)
  let found ← json.fields? names
  match (names.zip found).find? (·.1 == name) with
  | some (_, .given value) => some value
  | _ => none

end Shape

end BatchLens.Json
