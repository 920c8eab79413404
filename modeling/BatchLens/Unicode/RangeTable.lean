/-!
# Tables of code point ranges

A property of characters is a list of inclusive ranges of code points in increasing order.
Membership is a binary search, written with a step count so that it also evaluates in proofs;
as many steps as the table has ranges are always enough, since each step halves the part
that is left.
-/

namespace BatchLens.Unicode

/-- Whether a character is one of the 128 ASCII characters. -/
def isAscii (c : Char) : Bool := c.toNat < 128

/-- Inclusive ranges of code points, increasing and disjoint. -/
structure RangeTable where
  ranges : Array (Nat × Nat)

namespace RangeTable

/-- Looks for `code` among the ranges numbered from `low` up to `high`. -/
def search (table : RangeTable) (code : Nat) : Nat → Nat → Nat → Bool
  | 0, _, _ => false
  | steps + 1, low, high =>
      if low < high then
        let middle := (low + high) / 2
        match table.ranges[middle]? with
        | none => false
        | some (first, last) =>
            if code < first then table.search code steps low middle
            else if last < code then table.search code steps (middle + 1) high
            else true
      else false

/-- Whether some range of the table holds `code`. -/
def contains (table : RangeTable) (code : Nat) : Bool :=
  table.search code table.ranges.size 0 table.ranges.size

end RangeTable

end BatchLens.Unicode
