/-!
# Letters without regard to case

Under simple case folding an ASCII letter is the same as its other case, and two letters
outside ASCII fold to an ASCII one: the long s and the Kelvin sign.
-/

namespace BatchLens.Unicode

/-- The ASCII character that a character folds to, or the character itself. -/
def foldToAscii (c : Char) : Char :=
  if c == 'ſ' then 's'
  else if c.toNat == 0x212A then 'k'
  else c.toLower

end BatchLens.Unicode
