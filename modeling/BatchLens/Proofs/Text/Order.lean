import Mathlib.Data.Char
import Mathlib.Data.List.Lex
import BatchLens.Text.Basic

/-!
# The order of texts

Texts are compared character by character, which is the lexicographic order of lists
(`comesBefore_iff_lt`). Between texts of one length the first difference decides, whatever follows
behind them (`append_lt_append`).
-/

namespace BatchLens

namespace Text

variable {left right : Text}

theorem append_lt_append (before : left < right) (sameLength : left.length = right.length)
    (behind behind' : Text) : left ++ behind < right ++ behind' := by
  induction left generalizing right with
  | nil =>
      obtain rfl : right = [] := by simpa using sameLength.symm
      simp at before
  | cons c rest ih =>
      cases right with
      | nil => simp at sameLength
      | cons d others =>
          simp only [List.length_cons, Nat.add_right_cancel_iff] at sameLength
          simp only [List.cons_append, List.cons_lt_cons_iff] at before ⊢
          rcases before with smaller | ⟨same, restBefore⟩
          · exact .inl smaller
          · exact .inr ⟨same, ih restBefore sameLength⟩

end Text

end BatchLens
