/-!
# White space and line breaks

The Unicode property `White_Space`, and the part of it that ends a line.
-/

namespace BatchLens.Unicode

/-- The property `White_Space`. -/
def isWhiteSpace (c : Char) : Bool :=
  let code := c.toNat
  (0x09 ≤ code && code ≤ 0x0D) || code == 0x20 || code == 0x85 || code == 0xA0 ||
    code == 0x1680 || (0x2000 ≤ code && code ≤ 0x200A) || code == 0x2028 || code == 0x2029 ||
    code == 0x202F || code == 0x205F || code == 0x3000

/-- The characters that end a line: line feed, vertical tab, form feed, carriage return, next
line, and the line and paragraph separators. -/
def isLineBreak (c : Char) : Bool :=
  let code := c.toNat
  (0x0A ≤ code && code ≤ 0x0D) || code == 0x85 || code == 0x2028 || code == 0x2029

end BatchLens.Unicode
