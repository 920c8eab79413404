import BatchLens.Json.Reader

/-!
# Representable values

Well-formed JSON may hold what no value can stand for: half a surrogate pair alone in a string,
and a number too large for a double. Where a value is kept and not passed over, such
a text is as bad as a malformed one.
-/

namespace BatchLens.Json

/-- The digits of a decimal number from the first that is not zero, and the place of its point
among them, counted from their front. -/
def significand (spelling : Text) : Text × Int :=
  let unsigned := Text.dropLeading '-' spelling
  let isMark (c : Char) : Bool := c == 'e' || c == 'E'
  let mantissa := unsigned.takeWhile fun c => !isMark c
  let exponent : Int := match (unsigned.dropWhile fun c => !isMark c).drop 1 with
    | '-' :: digits => -(Reader.digitsValue digits : Int)
    | '+' :: digits => Reader.digitsValue digits
    | digits => Reader.digitsValue digits
  let whole := mantissa.takeWhile (· != '.')
  let digits := whole ++ (mantissa.dropWhile (· != '.')).drop 1
  let significant := digits.dropWhile (· == '0')
  let zeros := digits.length - significant.length
  (significant, (whole.length : Int) - zeros + exponent)

/-- Whether a decimal number lies in the range of a double: it is less than halfway from the
greatest double to the next power of two. -/
def isInDoubleRange (spelling : Text) : Bool :=
  let (digits, point) := significand spelling
  if digits.isEmpty || point < 309 then true
  else if 309 < point then false
  else
    Reader.digitsValue ((digits ++ List.replicate 309 '0').take 309) <
      Nat.pow 2 1024 - Nat.pow 2 970

mutual

/-- Whether every string in a value stands for a text, and every number for a double or for an
integer of 64 bits. -/
def isRepresentable : Json → Bool
  | unpaired => false
  | decimal spelling => isInDoubleRange spelling
  | array items => areRepresentable items
  | object members => membersAreRepresentable members
  | _ => true

/-- Whether all the items are representable. -/
def areRepresentable : List Json → Bool
  | [] => true
  | item :: others => item.isRepresentable && areRepresentable others

/-- Whether the values of all the members are representable. -/
def membersAreRepresentable : List (Text × Json) → Bool
  | [] => true
  | (_, value) :: others => value.isRepresentable && membersAreRepresentable others

end

end BatchLens.Json
