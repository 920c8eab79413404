import BatchLens.Json.Basic
import BatchLens.Text.Hexadecimal

/-!
# Printing JSON

Two layouts: `compact` without any space, and `pretty` with one member or item a line, two
spaces of indentation for each level, and nothing between the brackets of an empty array or
object. Strings escape quotes, backslashes and control characters and write everything else
as it is.
-/

namespace BatchLens.Json

/-- One character as it stands inside the quotes of a string. -/
def escapeChar (c : Char) : Text :=
  if c == '"' then ['\\', '"']
  else if c == '\\' then ['\\', '\\']
  else if c == '\n' then ['\\', 'n']
  else if c == '\r' then ['\\', 'r']
  else if c == '\t' then ['\\', 't']
  else if c == '\x08' then ['\\', 'b']
  else if c == '\x0c' then ['\\', 'f']
  else if c.toNat < 0x20 then
    ['\\', 'u', '0', '0', Text.hexDigit (c.toNat / 16), Text.hexDigit (c.toNat % 16)]
  else [c]

/-- A string with its quotes. -/
def quote (value : Text) : Text :=
  '"' :: (value.flatMap escapeChar ++ ['"'])

/-- The decimal spelling of an integer. -/
def spellInt (n : Int) : Text :=
  if n < 0 then '-' :: Text.ofNat n.natAbs else Text.ofNat n.natAbs

/-- A value that holds no other value. An unpaired half has no characters of its own and is
written as the replacement character. -/
def spellScalar : Json → Text
  | null => "null".toList
  | bool true => "true".toList
  | bool false => "false".toList
  | integer value => spellInt value
  | decimal spelling => spelling
  | string value => quote value
  | _ => quote ['\uFFFD']

mutual

/-- A value without any space in it. -/
def compact : Json → Text
  | array [] => ['[', ']']
  | array (item :: others) => '[' :: (compact item ++ compactItems others)
  | object [] => ['{', '}']
  | object ((key, value) :: others) =>
      '{' :: (quote key ++ ':' :: (compact value ++ compactMembers others))
  | scalar => spellScalar scalar

/-- The items behind the first, up to the closing bracket. -/
def compactItems : List Json → Text
  | [] => [']']
  | item :: others => ',' :: (compact item ++ compactItems others)

/-- The members behind the first, up to the closing bracket. -/
def compactMembers : List (Text × Json) → Text
  | [] => ['}']
  | (key, value) :: others =>
      ',' :: (quote key ++ ':' :: (compact value ++ compactMembers others))

end

/-- A new line at a level of indentation. -/
def newLine (level : Nat) : Text := '\n' :: List.replicate (2 * level) ' '

mutual

/-- A value whose members and items stand on lines of their own, from a level on. -/
def prettyAt (level : Nat) : Json → Text
  | array [] => ['[', ']']
  | array (item :: others) =>
      '[' :: (newLine (level + 1) ++ (prettyAt (level + 1) item ++ prettyItems level others))
  | object [] => ['{', '}']
  | object ((key, value) :: others) =>
      '{' :: (newLine (level + 1) ++ (quote key ++ ':' :: ' ' ::
        (prettyAt (level + 1) value ++ prettyMembers level others)))
  | scalar => spellScalar scalar

/-- The items behind the first, up to the closing bracket. -/
def prettyItems (level : Nat) : List Json → Text
  | [] => newLine level ++ [']']
  | item :: others =>
      ',' :: (newLine (level + 1) ++ (prettyAt (level + 1) item ++ prettyItems level others))

/-- The members behind the first, up to the closing bracket. -/
def prettyMembers (level : Nat) : List (Text × Json) → Text
  | [] => newLine level ++ ['}']
  | (key, value) :: others =>
      ',' :: (newLine (level + 1) ++ (quote key ++ ':' :: ' ' ::
        (prettyAt (level + 1) value ++ prettyMembers level others)))

end

/-- A value laid out over several lines. -/
def pretty (value : Json) : Text := prettyAt 0 value

end BatchLens.Json
