import BatchLens.Json.Basic
import BatchLens.Text.Hexadecimal

/-!
# Reading JSON

A reader for the strict grammar: no byte order mark, no comments, no trailing commas, no
leading zeros, no bare control characters in strings. Each function takes what it reads off
the front of a text and returns it with the rest. Nesting is limited by a given `room`.

The recursion is bounded by a count of calls. `parse` starts it with twice the length of the
text, which is always enough, since of two calls in a row at least one takes a character.
-/

namespace BatchLens.Json

namespace Reader

/-- The white space of JSON. -/
def isSpace (c : Char) : Bool := c == ' ' || c == '\n' || c == '\r' || c == '\t'

/-- The text behind the white space at its front. -/
def skipSpace (text : Text) : Text := text.dropWhile isSpace

/-- The value of four hexadecimal digits. -/
def fourHex? (a b c d : Char) : Option Nat := do
  let a ← Text.hexValue? a
  let b ← Text.hexValue? b
  let c ← Text.hexValue? c
  let d ← Text.hexValue? d
  some (((a * 16 + b) * 16 + c) * 16 + d)

/-- What a backslash makes of the character behind it. -/
def unescape? (c : Char) : Option Char :=
  if c == '"' || c == '\\' || c == '/' then some c
  else if c == 'b' then some '\x08'
  else if c == 'f' then some '\x0c'
  else if c == 'n' then some '\n'
  else if c == 'r' then some '\r'
  else if c == 't' then some '\t'
  else none

/-- A piece of a string: a character, or a code unit written as four hexadecimal digits. -/
inductive Piece where
  | char (c : Char)
  | unit (code : Nat)
  deriving DecidableEq, Repr

/-- The pieces of a string, from behind its opening quote to its closing quote. -/
def pieces : Text → Option (List Piece × Text)
  | [] => none
  | '"' :: rest => some ([], rest)
  | '\\' :: 'u' :: a :: b :: c :: d :: rest => do
      let code ← fourHex? a b c d
      let (others, behind) ← pieces rest
      some (.unit code :: others, behind)
  | '\\' :: c :: rest => do
      let plain ← unescape? c
      let (others, behind) ← pieces rest
      some (.char plain :: others, behind)
  | c :: rest =>
      if c.toNat < 0x20 || c == '\\' then none
      else do
        let (others, behind) ← pieces rest
        some (.char c :: others, behind)

/-- Whether a code unit is the first half of a surrogate pair. -/
def isHighHalf (code : Nat) : Bool := 0xD800 ≤ code && code ≤ 0xDBFF

/-- Whether a code unit is the second half of a surrogate pair. -/
def isLowHalf (code : Nat) : Bool := 0xDC00 ≤ code && code ≤ 0xDFFF

/-- The text that the pieces spell, if every half of a surrogate pair has its other half. -/
def spelled? : List Piece → Option Text
  | [] => some []
  | .char c :: others => (spelled? others).map (c :: ·)
  | .unit high :: .unit low :: others =>
      if isHighHalf high then
        if isLowHalf low then
          (spelled? others).map
            (Char.ofNat (0x10000 + (high - 0xD800) * 0x400 + (low - 0xDC00)) :: ·)
        else none
      else if isLowHalf high then none
      else (spelled? (.unit low :: others)).map (Char.ofNat high :: ·)
  | .unit code :: others =>
      if isHighHalf code || isLowHalf code then none
      else (spelled? others).map (Char.ofNat code :: ·)

/-- A string, from behind its opening quote; nothing in place of its text if that is unpaired. -/
def string? (text : Text) : Option (Option Text × Text) :=
  (pieces text).map fun (found, behind) => (spelled? found, behind)

/-- The value of a run of decimal digits. -/
def digitsValue (digits : Text) : Nat :=
  digits.foldl (fun value c => 10 * value + (c.toNat - 48)) 0

/-- One or more decimal digits. -/
def digits? (text : Text) : Option (Text × Text) :=
  match text.takeWhile Char.isDigit with
  | [] => none
  | digits => some (digits, text.dropWhile Char.isDigit)

/-- The fraction of a number, if there is one; nothing when its digits are missing. -/
def fraction? : Text → Option (Text × Text)
  | '.' :: rest => (digits? rest).map fun (digits, behind) => ('.' :: digits, behind)
  | rest => some ([], rest)

/-- The exponent of a number, if there is one; nothing when its digits are missing. -/
def exponent? : Text → Option (Text × Text)
  | [] => some ([], [])
  | c :: rest =>
      if c == 'e' || c == 'E' then
        match rest with
        | sign :: behind =>
            if sign == '+' || sign == '-' then
              (digits? behind).map fun (digits, behind) => (c :: sign :: digits, behind)
            else (digits? rest).map fun (digits, behind) => (c :: digits, behind)
        | [] => none
      else some ([], c :: rest)

/-- The least integer of 64 bits, and the first that is too large. -/
def isInRange (value : Int) : Bool :=
  -0x8000000000000000 ≤ value && value < 0x10000000000000000

/-- A number without its sign; `sign` is what stands in front of it. -/
def unsigned? (sign : Text) (text : Text) : Option (Json × Text) := do
  let (whole, behind) ← digits? text
  if whole.head? == some '0' && whole.length > 1 then none
  let (fraction, behind) ← fraction? behind
  let (exponent, behind) ← exponent? behind
  let size : Int := digitsValue whole
  let value := if sign.isEmpty then size else -size
  let isInteger := fraction.isEmpty && exponent.isEmpty && isInRange value &&
    (sign.isEmpty || value != 0)
  if isInteger then some (.integer value, behind)
  else some (.decimal (sign ++ whole ++ fraction ++ exponent), behind)

/-- A number. -/
def number? : Text → Option (Json × Text)
  | '-' :: rest => unsigned? ['-'] rest
  | rest => unsigned? [] rest

/-- A number or one of the three words. -/
def scalar? (text : Text) : Option (Json × Text) :=
  match text with
  | 'n' :: 'u' :: 'l' :: 'l' :: rest => some (.null, rest)
  | 't' :: 'r' :: 'u' :: 'e' :: rest => some (.bool true, rest)
  | 'f' :: 'a' :: 'l' :: 's' :: 'e' :: rest => some (.bool false, rest)
  | rest => number? rest

/-- The members of an object when every key stands for a text. -/
def keyed? : List (Option Text × Json) → Option (List (Text × Json))
  | [] => some []
  | (key, value) :: others => do
      let key ← key
      let others ← keyed? others
      some ((key, value) :: others)

/-- The object with the given members. -/
def objectOf (members : List (Option Text × Json)) : Json :=
  match keyed? members with
  | some members => .object members
  | none => .unpaired

/-- The string with the given text. -/
def stringOf : Option Text → Json
  | some value => .string value
  | none => .unpaired

/-- A key and the colon behind it. -/
def key? (text : Text) : Option (Option Text × Text) :=
  match skipSpace text with
  | '"' :: rest => do
      let (key, behind) ← string? rest
      match skipSpace behind with
      | ':' :: rest => some (key, rest)
      | _ => none
  | _ => none

mutual

/-- A value, in which arrays and objects nest at most `room` deep. -/
def value? : Nat → Nat → Text → Option (Json × Text)
  | 0, _, _ => none
  | calls + 1, room, text =>
      match skipSpace text with
      | '"' :: rest => (string? rest).map fun (value, behind) => (stringOf value, behind)
      | '[' :: rest =>
          match room with
          | 0 => none
          | room + 1 => (items? calls room rest).map fun (items, behind) => (.array items, behind)
      | '{' :: rest =>
          match room with
          | 0 => none
          | room + 1 =>
              (members? calls room rest).map fun (members, behind) => (objectOf members, behind)
      | rest => scalar? rest

/-- The items of an array, from behind its opening bracket. -/
def items? : Nat → Nat → Text → Option (List Json × Text)
  | 0, _, _ => none
  | calls + 1, room, text =>
      match skipSpace text with
      | ']' :: rest => some ([], rest)
      | rest => do
          let (item, behind) ← value? calls room rest
          let (others, behind) ← moreItems? calls room behind
          some (item :: others, behind)

/-- The items of an array behind its first. -/
def moreItems? : Nat → Nat → Text → Option (List Json × Text)
  | 0, _, _ => none
  | calls + 1, room, text =>
      match skipSpace text with
      | ']' :: rest => some ([], rest)
      | ',' :: rest => do
          let (item, behind) ← value? calls room rest
          let (others, behind) ← moreItems? calls room behind
          some (item :: others, behind)
      | _ => none

/-- The members of an object, from behind its opening bracket. -/
def members? : Nat → Nat → Text → Option (List (Option Text × Json) × Text)
  | 0, _, _ => none
  | calls + 1, room, text =>
      match skipSpace text with
      | '}' :: rest => some ([], rest)
      | rest => do
          let (key, behind) ← key? rest
          let (value, behind) ← value? calls room behind
          let (others, behind) ← moreMembers? calls room behind
          some ((key, value) :: others, behind)

/-- The members of an object behind its first. -/
def moreMembers? : Nat → Nat → Text → Option (List (Option Text × Json) × Text)
  | 0, _, _ => none
  | calls + 1, room, text =>
      match skipSpace text with
      | '}' :: rest => some ([], rest)
      | ',' :: rest => do
          let (key, behind) ← key? rest
          let (value, behind) ← value? calls room behind
          let (others, behind) ← moreMembers? calls room behind
          some ((key, value) :: others, behind)
      | _ => none

end

end Reader

/-- The value that a whole text spells, in which arrays and objects nest at most `room` deep. -/
def parseWithin? (room : Nat) (text : Text) : Option Json :=
  match Reader.value? (2 * text.length + 2) room text with
  | some (value, rest) => if (Reader.skipSpace rest).isEmpty then some value else none
  | none => none

/-- The value that a whole text spells. -/
def parse? (text : Text) : Option Json := parseWithin? text.length text

end BatchLens.Json
