import BatchLens.Proofs.Text.Cut

/-!
# Operations that can fail

Some operations on numbers and texts have no result for some of their arguments: a smaller number
minus a greater one, an element behind the end, a part of a text that would begin or end inside a
character. Elsewhere in this library such operations are rounded so that they always have a result.
Here they tell their fault, so that it can be proved that none occurs where nothing had to be
rounded.
-/

namespace BatchLens

/-- Why an operation has no result. -/
inductive Fault where
  /-- The second number is greater than the first. -/
  | underflow
  /-- An index or an offset lies behind the end. -/
  | outOfRange
  /-- The second end of a range lies before the first. -/
  | reversed
  /-- An offset lies inside a character. -/
  | insideCharacter
  deriving DecidableEq, Repr

/-- A result, or the fault because of which there is none. -/
abbrev Checked (α : Type) := Except Fault α

namespace Checked

@[simp]
theorem ok_bind {α β : Type} (value : α) (next : α → Checked β) :
    ((.ok value : Checked α) >>= next) = next value := rfl

section

variable {Number : Type} [LE Number] [DecidableLE Number] [Sub Number] {left right : Number}

/-- The difference of two numbers. -/
def difference (left right : Number) : Checked Number :=
  if right ≤ left then .ok (left - right) else .error .underflow

theorem difference_of_le (ordered : right ≤ left) :
    difference left right = .ok (left - right) := by
  rw [difference, if_pos ordered]

theorem difference_of_not_le (reversed : ¬right ≤ left) :
    difference left right = .error .underflow := by
  rw [difference, if_neg reversed]

end

/-! ## Parts of a text -/

/-- The part of a text in a range. -/
def part (text : Text) (range : ByteRange) : Checked Text :=
  if range.stop < range.start then .error .reversed
  else if text.byteLen < range.stop then .error .outOfRange
  else if text.isBoundary range.start && text.isBoundary range.stop then
    .ok (text.slice range.start range.stop)
  else .error .insideCharacter

/-- The part of a text in front of an offset. -/
def front (text : Text) (stop : Nat) : Checked Text := part text ⟨0, stop⟩

/-- The part of a text from an offset on. -/
def back (text : Text) (start : Nat) : Checked Text := part text ⟨start, text.byteLen⟩

theorem part_cut (before middle behind : Text) :
    part (before ++ middle ++ behind) ⟨before.byteLen, (before ++ middle).byteLen⟩ =
      .ok middle := by
  have first : Text.isBoundary (before ++ middle ++ behind) before.byteLen = true :=
    Text.isBoundary_iff.mpr ⟨before, middle ++ behind, List.append_assoc .., rfl⟩
  have second : Text.isBoundary (before ++ middle ++ behind) (before ++ middle).byteLen = true :=
    Text.isBoundary_iff.mpr ⟨before ++ middle, behind, rfl, rfl⟩
  have ordered : ¬(before ++ middle).byteLen < before.byteLen := by simp
  have inside : ¬Text.byteLen (before ++ middle ++ behind) < (before ++ middle).byteLen := by
    simp
  simp only [part, if_neg ordered, if_neg inside, first, second, Bool.and_self, if_true,
    Text.slice_cut]

theorem front_cut (before behind : Text) :
    front (before ++ behind) before.byteLen = .ok before := by
  simpa [front] using part_cut [] before behind

theorem back_cut (before behind : Text) :
    back (before ++ behind) before.byteLen = .ok behind := by
  simpa [back] using part_cut before behind []

end Checked

end BatchLens
