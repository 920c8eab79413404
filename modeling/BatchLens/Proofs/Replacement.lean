import Mathlib.Order.Bounds.Defs
import BatchLens.Proofs.Checked.Document
import BatchLens.Proofs.Place

/-!
# Replacing a part of a document and restoring it

A replacement may be asked for between any two offsets. Rounded down to characters, and the second
one to the first if it lies in front of it, they cut the text of the document in three
(`exists_cut`). The new text takes the place of the middle part and can be told from the rest by its
length, even where it joins or parts the characters of a line break at its ends. To put what was
there before in its place again is therefore to restore the document (`replace_restores`).
-/

namespace BatchLens

namespace Text

/-- An offset is rounded down to the greatest offset of a cut that does not lie behind it. -/
theorem isGreatest_clamp (text : Text) (offset : Nat) :
    IsGreatest {boundary | (∃ before behind, text = before ++ behind ∧ byteLen before = boundary) ∧
      boundary ≤ min offset text.byteLen} (text.clamp offset) := by
  constructor
  · rcases exists_cut_clamp text offset with ⟨before, behind, cut, length⟩
    refine ⟨⟨before, behind, cut, length⟩, Nat.le_min.mpr ⟨text.clamp_le offset, ?_⟩⟩
    rw [← length, cut, byteLen_append]
    exact Nat.le_add_right ..
  · rintro boundary ⟨⟨before, behind, rfl, rfl⟩, notBehind⟩
    rw [← clamp_cut before behind]
    exact clamp_mono _ (Nat.le_trans notBehind (Nat.min_le_left ..))

end Text

namespace Document

/-- The two ends of a range cut a text in three. -/
theorem exists_cut (document : Document) (range : ByteRange) :
    ∃ before behind,
      document.text = before ++ document.slice range ++ behind ∧
      before.byteLen = document.clamp range.start ∧
      Text.byteLen (before ++ document.slice range) =
        max (document.clamp range.stop) (document.clamp range.start) ∧
      ∀ new, document.replace range new = ⟨before ++ new ++ behind⟩ := by
  refine ⟨_, _, Checked.text_eq_slice document range, rfl, ?_, fun _ => rfl⟩
  exact (Checked.max_clamp document range).symm

/-- Between any two offsets, a replacement puts the new text between what stands in front of the
part that is rounded to characters and what stands behind it. The new text is what is then found
there, and when the former text is put in its place, the document is as it was, with its lines. -/
theorem replace_restores (document : Document) (range : ByteRange) (new : Text) :
    let start := document.clamp range.start
    let stop := max (document.clamp range.stop) start
    let inserted : ByteRange := ⟨start, start + new.byteLen⟩
    (∀ offset, IsGreatest
      {boundary |
        (∃ before behind, document.text = before ++ behind ∧ Text.byteLen before = boundary) ∧
          boundary ≤ min offset document.length}
      (document.clamp offset)) ∧
    ∃ before behind former replaced restored,
      Checked.front document.text start = .ok before ∧
      Checked.back document.text stop = .ok behind ∧
      Checked.slice document range = .ok former ∧
      Checked.replace document range new = .ok replaced ∧
      replaced.text = before ++ new ++ behind ∧
      Checked.slice replaced inserted = .ok new ∧
      Checked.replace replaced inserted former = .ok restored ∧
      restored = document ∧ restored.lines = document.lines := by
  intro start stop inserted
  refine ⟨document.text.isGreatest_clamp, ?_⟩
  rcases document.exists_cut range with ⟨before, behind, text, startEq, stopEq, replace⟩
  have insertedEq : inserted = ⟨before.byteLen, Text.byteLen (before ++ new)⟩ := by
    rw [Text.byteLen_append, startEq]
  refine ⟨before, behind, document.slice range, ⟨before ++ new ++ behind⟩, document, ?_, ?_, ?_,
    ?_, rfl, ?_, ?_, rfl, rfl⟩
  · have front := Checked.front_cut before (document.slice range ++ behind)
    rwa [← List.append_assoc, ← text, startEq] at front
  · have back := Checked.back_cut (before ++ document.slice range) behind
    rwa [← text, stopEq] at back
  · exact Checked.slice_eq document range
  · rw [Checked.replace_eq, replace]
  · rw [Checked.slice_eq, insertedEq, slice, Text.slice_cut]
  · rw [Checked.replace_eq, insertedEq, replace_cut, ← text]

/-- A text that parts a line break, and an empty one that joins it again. -/
example :
    (replace ⟨"a\r\nb".toList⟩ ⟨2, 2⟩ "x".toList).lineCount = 3 ∧
      ((replace ⟨"a\r\nb".toList⟩ ⟨2, 2⟩ "x".toList).replace ⟨2, 3⟩ []).lineCount = 2 := by
  decide

end Document

end BatchLens
