import BatchLens.Json.Reader

/-!
# The grammar of JSON

Which texts spell a value. The grammar is stated without regard to how a text is read: a text may
be spelled in many ways, with blanks in front of every value, key and sign, with characters of a
string as they are or behind a backslash, and with numbers of any length. What a text stands for
between two signs of an array or object is a form (`Form`), so that one relation covers values,
items and members (`Spells`).
-/

namespace BatchLens.Json

open Reader (Piece)

/-- The blanks that may stand between two signs. -/
def blanks : List Char := [' ', '\n', '\r', '\t']

/-! ## Strings -/

/-- The characters that may stand behind a backslash, with what they stand for there. -/
def escapes : List (Char × Char) :=
  [('"', '"'), ('\\', '\\'), ('/', '/'), ('b', '\x08'), ('f', '\x0c'), ('n', '\n'), ('r', '\r'),
    ('t', '\t')]

/-- Four hexadecimal digits in either case that spell a code unit. -/
def SpellsUnit (code : Nat) (digits : Text) : Prop :=
  code < 0x10000 ∧ digits.map Char.toLower =
    [code / 0x1000, code / 0x100 % 16, code / 0x10 % 16, code % 16].map Text.hexDigit

/-- The ways in which the pieces of a string are written. -/
inductive SpellsPieces : List Piece → Text → Prop
  | nil : SpellsPieces [] []
  | plain {pieces : List Piece} {written : Text} {c : Char} (notControl : 0x20 ≤ c.toNat)
      (notQuote : c ≠ '"') (notBackslash : c ≠ '\\') (others : SpellsPieces pieces written) :
      SpellsPieces (.char c :: pieces) (c :: written)
  | escaped {pieces : List Piece} {written : Text} {letter c : Char}
      (isEscape : (letter, c) ∈ escapes) (others : SpellsPieces pieces written) :
      SpellsPieces (.char c :: pieces) ('\\' :: letter :: written)
  | unit {pieces : List Piece} {written digits : Text} {code : Nat}
      (spells : SpellsUnit code digits) (others : SpellsPieces pieces written) :
      SpellsPieces (.unit code :: pieces) ('\\' :: 'u' :: (digits ++ written))

/-- The text for which the pieces of a string stand: two halves of a surrogate pair stand for one
character, and half a pair alone stands for none. -/
inductive Means : List Piece → Text → Prop
  | nil : Means [] []
  | char {pieces : List Piece} {text : Text} {c : Char} (others : Means pieces text) :
      Means (.char c :: pieces) (c :: text)
  | unit {pieces : List Piece} {text : Text} {c : Char} (others : Means pieces text) :
      Means (.unit c.toNat :: pieces) (c :: text)
  | pair {pieces : List Piece} {text : Text} {c : Char} {high low : Nat}
      (isHigh : 0xD800 ≤ high ∧ high ≤ 0xDBFF) (isLow : 0xDC00 ≤ low ∧ low ≤ 0xDFFF)
      (isPair : c.toNat = 0x10000 + (high - 0xD800) * 0x400 + (low - 0xDC00))
      (others : Means pieces text) : Means (.unit high :: .unit low :: pieces) (c :: text)

/-- What stands between the quotes of a string, and the text for which it stands, if any. -/
def SpellsString (value : Option Text) (written : Text) : Prop :=
  ∃ pieces, SpellsPieces pieces written ∧ ∀ text, value = some text ↔ Means pieces text

/-! ## Numbers -/

/-- One or more decimal digits. -/
def IsDigits (digits : Text) : Prop := digits ≠ [] ∧ ∀ c ∈ digits, c.isDigit = true

/-- The parts of a number. -/
structure Numeral where
  sign : Text
  whole : Text
  fraction : Text
  exponent : Text

namespace Numeral

/-- How the parts of a number are written. -/
structure IsWritten (numeral : Numeral) : Prop where
  isSign : numeral.sign = [] ∨ numeral.sign = ['-']
  isWhole : IsDigits numeral.whole
  noLeadingZero : numeral.whole.head? = some '0' → numeral.whole = ['0']
  isFraction : numeral.fraction = [] ∨
    ∃ digits, IsDigits digits ∧ numeral.fraction = '.' :: digits
  isExponent : numeral.exponent = [] ∨
    ∃ letter sign digits, (letter = 'e' ∨ letter = 'E') ∧
      (sign = [] ∨ sign = ['+'] ∨ sign = ['-']) ∧ IsDigits digits ∧
      numeral.exponent = letter :: (sign ++ digits)

/-- The number as it is written. -/
def text (numeral : Numeral) : Text :=
  numeral.sign ++ numeral.whole ++ numeral.fraction ++ numeral.exponent

/-- The number without its fraction and exponent. -/
def wholeValue (numeral : Numeral) : Int :=
  if numeral.sign = [] then Reader.digitsValue numeral.whole
  else -(Reader.digitsValue numeral.whole : Int)

/-- A number is an integer if it has no fraction and no exponent and fits into 64 bits, but for the
negative zero. -/
def IsInteger (numeral : Numeral) : Prop :=
  numeral.fraction = [] ∧ numeral.exponent = [] ∧
    (-0x8000000000000000 ≤ numeral.wholeValue ∧ numeral.wholeValue < 0x10000000000000000) ∧
    (numeral.sign = [] ∨ numeral.wholeValue ≠ 0)

instance (numeral : Numeral) : Decidable numeral.IsInteger :=
  inferInstanceAs (Decidable (_ ∧ _))

/-- Every number that is no integer keeps its spelling. -/
def value (numeral : Numeral) : Json :=
  if numeral.IsInteger then .integer numeral.wholeValue else .decimal numeral.text

end Numeral

/-! ## Values -/

/-- What a part of a text stands for. -/
inductive Form where
  | value (json : Json)
  /-- A member of an object. -/
  | member (key : Option Text) (json : Json)
  /-- The items of an array from behind its opening bracket. -/
  | items (items : List Json)
  /-- The items of an array from behind one of them. -/
  | moreItems (items : List Json)
  /-- The members of an object from behind its opening bracket. -/
  | members (members : List (Option Text × Json))
  /-- The members of an object from behind one of them. -/
  | moreMembers (members : List (Option Text × Json))

/-- Which texts spell a value, or a part of an array or object up to its closing bracket. -/
inductive Spells : Form → Text → Prop
  | blank {form : Form} {text : Text} {c : Char} (isBlank : c ∈ blanks)
      (behind : Spells form text) : Spells form (c :: text)
  | null : Spells (.value .null) "null".toList
  | true : Spells (.value (.bool true)) "true".toList
  | false : Spells (.value (.bool false)) "false".toList
  | number {numeral : Numeral} (isWritten : numeral.IsWritten) :
      Spells (.value numeral.value) numeral.text
  | string {value : Option Text} {written : Text} (spells : SpellsString value written) :
      Spells (.value (Reader.stringOf value)) ('"' :: (written ++ ['"']))
  | array {items : List Json} {body : Text} (inside : Spells (.items items) body) :
      Spells (.value (.array items)) ('[' :: body)
  | object {members : List (Option Text × Json)} {body : Text}
      (inside : Spells (.members members) body) :
      Spells (.value (Reader.objectOf members)) ('{' :: body)
  | member {key : Option Text} {json : Json} {written gap text : Text}
      (spells : SpellsString key written) (areBlanks : ∀ c ∈ gap, c ∈ blanks)
      (value : Spells (.value json) text) :
      Spells (.member key json) ('"' :: (written ++ '"' :: (gap ++ ':' :: text)))
  | noItem : Spells (.items []) [']']
  | firstItem {item : Json} {others : List Json} {text behind : Text}
      (value : Spells (.value item) text) (more : Spells (.moreItems others) behind) :
      Spells (.items (item :: others)) (text ++ behind)
  | lastItem : Spells (.moreItems []) [']']
  | nextItem {item : Json} {others : List Json} {text behind : Text}
      (value : Spells (.value item) text) (more : Spells (.moreItems others) behind) :
      Spells (.moreItems (item :: others)) (',' :: (text ++ behind))
  | noMember : Spells (.members []) ['}']
  | firstMember {key : Option Text} {json : Json} {others : List (Option Text × Json)}
      {text behind : Text} (member : Spells (.member key json) text)
      (more : Spells (.moreMembers others) behind) :
      Spells (.members ((key, json) :: others)) (text ++ behind)
  | lastMember : Spells (.moreMembers []) ['}']
  | nextMember {key : Option Text} {json : Json} {others : List (Option Text × Json)}
      {text behind : Text} (member : Spells (.member key json) text)
      (more : Spells (.moreMembers others) behind) :
      Spells (.moreMembers ((key, json) :: others)) (',' :: (text ++ behind))

end BatchLens.Json
