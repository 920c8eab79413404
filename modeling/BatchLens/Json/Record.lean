import BatchLens.Json.Basic

/-!
# Reading records

A record is a value with named fields. It is written as an object, in any order and with
unknown keys left aside, or as an array of its fields in their order. A known key may stand in
an object only once, and an array may not be longer than the record.
-/

namespace BatchLens.Json

/-- What a record says about one of its fields. -/
inductive Field where
  /-- The value of the field. -/
  | given (value : Json)
  /-- The object has no such key. -/
  | missing
  /-- The array ends before the field. -/
  | cutOff

namespace Field

/-- A field that has to be there. -/
def required {α : Type} (decode : Json → Option α) : Field → Option α
  | given value => decode value
  | _ => none

/-- A field that may be null or have no key. -/
def optional {α : Type} (decode : Json → Option α) : Field → Option (Option α)
  | given null => some none
  | given value => (decode value).map some
  | missing => some none
  | cutOff => none

/-- A field with a default, which may be left out and may not be null unless its values may. -/
def withDefault {α : Type} (default : α) (decode : Json → Option α) : Field → Option α
  | given value => decode value
  | _ => some default

end Field

/-- The value of a key that stands at most once among the members. -/
def uniqueMember? (members : List (Text × Json)) (name : Text) : Option Field :=
  match members.filter (·.1 == name) with
  | [] => some .missing
  | [(_, value)] => some (.given value)
  | _ => none

/-- The fields of a record, in the order of their names. -/
def fields? (names : List String) : Json → Option (List Field)
  | object members => names.mapM fun name => uniqueMember? members name.toList
  | array items =>
      if items.length ≤ names.length then
        some (items.map Field.given ++ List.replicate (names.length - items.length) Field.cutOff)
      else none
  | _ => none

/-- The fields of a record that has to be written as an object. -/
def objectFields? (names : List String) : Json → Option (List Field)
  | object members => names.mapM fun name => uniqueMember? members name.toList
  | _ => none

/-- A truth value. -/
def bool? : Json → Option Bool
  | bool value => some value
  | _ => none

/-- A text. -/
def string? : Json → Option Text
  | string value => some value
  | _ => none

/-- A natural number of 32 bits. -/
def word? : Json → Option UInt32
  | integer value =>
      if 0 ≤ value && value < 0x100000000 then some (UInt32.ofNat value.toNat) else none
  | _ => none

/-- An integer of 32 bits. -/
def int32? : Json → Option Int
  | integer value => if -0x80000000 ≤ value && value < 0x80000000 then some value else none
  | _ => none

/-- A list of values of one kind. -/
def list? {α : Type} (decode : Json → Option α) : Json → Option (List α)
  | array items => items.mapM decode
  | _ => none

/-- A value that may be null. -/
def nullable? {α : Type} (decode : Json → Option α) : Json → Option (Option α)
  | null => some none
  | value => (decode value).map some

/-- The same value with every key once in each object: where a key is repeated, its last value
counts, at the place of its first. -/
def lastMember (members : List (Text × Json)) (key : Text) (value : Json) : List (Text × Json) :=
  if members.any (·.1 == key) then
    members.map fun member => if member.1 == key then (key, value) else member
  else members ++ [(key, value)]

mutual

/-- The value in which no object repeats a key; of a repeated key the last value counts. -/
def withoutRepeats : Json → Json
  | array items => array (itemsWithoutRepeats items)
  | object members => object (membersWithoutRepeats [] members)
  | scalar => scalar

/-- The items, each without repeated keys. -/
def itemsWithoutRepeats : List Json → List Json
  | [] => []
  | item :: others => item.withoutRepeats :: itemsWithoutRepeats others

/-- The members, added one by one to those that came before. -/
def membersWithoutRepeats (before : List (Text × Json)) : List (Text × Json) → List (Text × Json)
  | [] => before
  | (key, value) :: others =>
      membersWithoutRepeats (lastMember before key value.withoutRepeats) others

end

end BatchLens.Json
