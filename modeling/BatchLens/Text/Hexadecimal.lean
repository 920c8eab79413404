import BatchLens.Text.Basic

/-!
# Hexadecimal digits

The digit of a number below sixteen, and the number of a digit in either case. Reading takes
back what writing gives (`hexValue?_hexDigit`).
-/

namespace BatchLens.Text

/-- The lower-case hexadecimal digit of a number below sixteen. -/
def hexDigit (value : Nat) : Char := Nat.digitChar value

/-- The value of a hexadecimal digit. -/
def hexValue? (c : Char) : Option Nat :=
  if c.isDigit then some (c.toNat - 48)
  else if 'a' ≤ c && c ≤ 'f' then some (c.toNat - 87)
  else if 'A' ≤ c && c ≤ 'F' then some (c.toNat - 55)
  else none

theorem hexValue?_hexDigit (value : Nat) (small : value < 16) :
    hexValue? (hexDigit value) = some value := by
  revert value
  decide

end BatchLens.Text
