import BatchLens.Proofs.Offset
import BatchLens.Proofs.Protocol.Position

/-!
# Between offsets and positions

An offset that is told as a position and resolved again comes back rounded down to a boundary. The
one exception lies between a carriage return and its line feed, from where one gets back to the end
of the line. A position inside a line comes back unchanged. Both directions keep the order, the one
from positions to offsets without any condition: positions that leave their line or the document, or
that lie inside a character, are resolved in order as well (`offsetOf_mono`).
-/

namespace BatchLens

/-- Positions are ordered by line, and on one line by column. -/
instance : LE Position where
  le left right :=
    left.line < right.line ∨ (left.line = right.line ∧ left.character ≤ right.character)

instance (left right : Position) : Decidable (left ≤ right) :=
  inferInstanceAs (Decidable (_ ∨ _))

namespace PositionEncoding

variable (encoding : PositionEncoding)

theorem bytesToColumn_le (column passed : UInt32) (line : Text) :
    encoding.bytesToColumn column passed line ≤ line.byteLen := by
  rcases encoding.exists_cut_bytesToColumn column passed line with ⟨before, behind, rfl, found⟩
  rw [found]
  simp

theorem bytesToColumn_mono {first second : UInt32} (ordered : first ≤ second) (passed : UInt32)
    (line : Text) :
    encoding.bytesToColumn first passed line ≤ encoding.bytesToColumn second passed line := by
  induction line generalizing passed with
  | nil => simp [bytesToColumn]
  | cons c rest ih =>
      simp only [bytesToColumn]
      by_cases stops : first < saturatingAdd passed (encoding.units c)
      · simp [stops]
      · have goesOn : ¬second < saturatingAdd passed (encoding.units c) := by
          rw [UInt32.lt_iff_toNat_lt] at stops ⊢
          rw [UInt32.le_iff_toNat_le] at ordered
          omega
        simpa [stops, goesOn] using ih (saturatingAdd passed (encoding.units c))

/-- A column behind the end of a line counts as its end. -/
theorem bytesToColumn_of_le {column passed : UInt32} {line : Text}
    (behind : passed.toNat + encoding.unitCount line ≤ column.toNat) :
    encoding.bytesToColumn column passed line = line.byteLen := by
  have columnSmall := column.toNat_lt
  induction line generalizing passed with
  | nil => rfl
  | cons c rest ih =>
      simp only [unitCount_cons] at behind
      have next : (saturatingAdd passed (encoding.units c)).toNat =
          passed.toNat + encoding.width c := by
        rw [toNat_saturatingAdd, toNat_units]
        omega
      have goesOn : ¬column < saturatingAdd passed (encoding.units c) := by
        rw [UInt32.lt_iff_toNat_lt, next]
        omega
      simp only [bytesToColumn, goesOn, if_false, Text.byteLen_cons]
      rw [ih]
      omega

end PositionEncoding

namespace Document

variable {document : Document} {encoding : PositionEncoding}

/-- Whether also the column between the two characters of a break can be told in 32 bits. -/
structure FitsWithBreaks (document : Document) (encoding : PositionEncoding) : Prop extends
    document.Fits encoding where
  returnCount_lt : ∀ line ∈ document.lines, line.ending = ['\r', '\n'] →
    encoding.unitCount (line.content ++ ['\r']) < 0x100000000

/-- Whether an offset lies between a carriage return and its line feed. -/
def IsInsideBreak (document : Document) (offset : Nat) : Prop :=
  ∃ before behind, document.text = before ++ '\r' :: '\n' :: behind ∧ offset = before.byteLen + 1

/-- Whether a position denotes a boundary in the content of an existing line. -/
def IsOnLine (document : Document) (encoding : PositionEncoding) (position : Position) : Prop :=
  position.line.toNat < document.lineCount ∧
    ∃ column rest, document.line position.line.toNat = column ++ rest ∧
      position.character.toNat = encoding.unitCount column

/-! ## From offsets to positions -/

@[simp]
theorem positionOf_clamp (document : Document) (encoding : PositionEncoding) (offset : Nat) :
    document.positionOf encoding (document.clamp offset) = document.positionOf encoding offset := by
  simp [positionOf]

section Held

variable {offset : Nat} {earlier later : List Line} {head tail : Text} {line : Line}

theorem Held.positionOf_eq (held : document.Held offset earlier head tail line later) :
    document.positionOf encoding offset =
      ⟨UInt32.ofNat earlier.length, encoding.columnUnits head⟩ := by
  simp only [positionOf, held.clamp_eq, held.lineOfOffset_eq, held.slice_eq]

theorem Held.unitCount_lt (held : document.Held offset earlier head tail line later)
    (fits : document.FitsWithBreaks encoding) : encoding.unitCount head < 0x100000000 := by
  have isLine : line ∈ document.lines := by simp [held.lines]
  rcases held.head_cases with ⟨rest, content⟩ | ⟨pair, headEq, _⟩
  · have small := fits.unitCount_lt line isLine
    rw [content, PositionEncoding.unitCount_append] at small
    omega
  · rw [headEq]
    exact fits.returnCount_lt line isLine pair

theorem Held.toNat_positionOf (held : document.Held offset earlier head tail line later)
    (fits : document.FitsWithBreaks encoding) :
    (document.positionOf encoding offset).line.toNat = earlier.length ∧
      (document.positionOf encoding offset).character.toNat = encoding.unitCount head := by
  have few := held.isLine
  have small := fits.lineCount_lt
  rw [held.positionOf_eq]
  constructor
  · exact UInt32.toNat_ofNat_of_lt' (Nat.lt_trans few small)
  · exact encoding.toNat_columnUnits_of_lt head (held.unitCount_lt fits)

/-- The position of an offset behind the content of its line leads to the end of the content. -/
theorem Held.offsetOf_positionOf (held : document.Held offset earlier head tail line later)
    (fits : document.FitsWithBreaks encoding)
    (behind : encoding.unitCount line.content ≤ encoding.unitCount head) :
    document.offsetOf encoding (document.positionOf encoding offset) =
      (Line.joined earlier).byteLen + line.content.byteLen := by
  rcases held.toNat_positionOf fits with ⟨lineEq, characterEq⟩
  have found : encoding.byteOfColumn line.content
      (document.positionOf encoding offset).character = line.content.byteLen := by
    apply encoding.bytesToColumn_of_le
    rw [characterEq]
    simpa using behind
  rw [offsetOf, lineEq, if_pos held.isLine, held.lineStart_eq, line_of_lines held.lines, found]

end Held

/-- Behind a carriage return comes a character of one byte, so that no other offset is rounded down
to the offset between it and its line feed. -/
theorem eq_clamp_of_isInsideBreak {offset : Nat}
    (inside : document.IsInsideBreak (document.clamp offset)) : offset = document.clamp offset := by
  rcases inside with ⟨before, behind, text, clamped⟩
  have next : document.clamp (document.clamp offset + 1) = document.clamp offset + 1 := by
    have length : document.clamp offset + 1 = (before ++ ['\r', '\n']).byteLen := by
      rw [clamped, Text.byteLen_append]
      rfl
    have cut : document.text = (before ++ ['\r', '\n']) ++ behind := by simp [text]
    rw [length, clamp, cut, Text.clamp_cut]
  rcases Nat.eq_or_lt_of_le (Text.clamp_le document.text offset) with same | beyond
  · exact same.symm
  · have isNext : document.text.clamp offset + 1 ≤ offset := beyond
    have reached := Text.clamp_mono document.text isNext
    simp only [clamp] at next
    omega

theorem IsInsideBreak.clamp_eq {offset : Nat} (inside : document.IsInsideBreak offset) :
    document.clamp offset = offset := by
  rcases inside with ⟨before, behind, text, rfl⟩
  have cut : document.text = (before ++ ['\r']) ++ '\n' :: behind := by simp [text]
  have length : before.byteLen + 1 = (before ++ ['\r']).byteLen := by
    rw [Text.byteLen_append]
    rfl
  rw [length, clamp, cut, Text.clamp_cut]

theorem offsetOf_positionOf_of_not_inside (fits : document.Fits encoding) {offset : Nat}
    (outside : ¬document.IsInsideBreak offset) :
    document.offsetOf encoding (document.positionOf encoding offset) = document.clamp offset := by
  rcases document.exists_held offset with ⟨earlier, head, tail, line, later, held⟩
  rw [← positionOf_clamp]
  rcases held.head_cases with ⟨rest, content⟩ | ⟨_, headEq, tailEq⟩
  · have located :
        document.Located (document.clamp offset) earlier head rest line.ending later := by
      refine ⟨?_, held.offset_eq⟩
      rw [held.lines, ← content]
    exact offsetOf_positionOf fits (isPlace_of_located located)
  · -- The offset that it is rounded to lies inside a break, and hence the offset itself.
    exfalso
    apply outside
    have inside : document.IsInsideBreak (document.clamp offset) := by
      refine ⟨Line.joined earlier ++ line.content, Line.joined later, ?_, ?_⟩
      · simp [held.text_eq, headEq, tailEq]
      · rw [held.offset_eq, headEq, ← List.append_assoc, Text.byteLen_append _ ['\r']]
        rfl
    rwa [← eq_clamp_of_isInsideBreak inside] at inside

/-- The line that holds such an offset stands in front of it up to its carriage return. -/
theorem IsInsideBreak.head_eq {offset : Nat} (inside : document.IsInsideBreak offset)
    {earlier later : List Line} {head tail : Text} {line : Line}
    (held : document.Held offset earlier head tail line later) :
    head = line.content ++ ['\r'] := by
  rcases held.head_cases with ⟨rest, content⟩ | ⟨_, headEq, _⟩
  · -- A cut in the content of a line splits no break, and this one would.
    exfalso
    apply (Text.cut_of_linesBy held.lines content).2
    rcases inside with ⟨before, behind, text, offsetEq⟩
    have sameText : (before ++ ['\r']) ++ '\n' :: behind =
        (Line.joined earlier ++ head) ++ (rest ++ (line.ending ++ Line.joined later)) := by
      rw [← Text.text_eq_of_linesBy held.lines content]
      simp [text]
    have sameLength : (before ++ ['\r']).byteLen = (Line.joined earlier ++ head).byteLen := by
      rw [← held.offset_eq, offsetEq, Text.byteLen_append]
      rfl
    rcases Text.cut_of_byteLen_le sameText (Nat.le_of_eq sameLength) with
      ⟨between, longer, behindEq⟩
    have nothing : between = [] := by
      simp only [longer, Text.byteLen_append] at sameLength
      exact Text.byteLen_eq_zero_iff.mp (by omega)
    subst nothing
    rw [List.append_nil] at longer
    rw [List.nil_append] at behindEq
    rw [longer, ← behindEq]
    simp [Text.SplitsBreak]
  · exact headEq

theorem offsetOf_positionOf_of_inside (fits : document.FitsWithBreaks encoding) {offset : Nat}
    (inside : document.IsInsideBreak offset) :
    document.offsetOf encoding (document.positionOf encoding offset) =
      document.lineStart (document.lineOfOffset offset) +
        (document.line (document.lineOfOffset offset)).byteLen := by
  rcases document.exists_held offset with ⟨earlier, head, tail, line, later, held⟩
  rw [inside.clamp_eq] at held
  have behind : encoding.unitCount line.content ≤ encoding.unitCount head := by
    simp [inside.head_eq held]
  rw [held.offsetOf_positionOf fits behind, held.lineOfOffset_eq, held.lineStart_eq,
    line_of_lines held.lines]

theorem positionOf_mono (fits : document.FitsWithBreaks encoding) {first second : Nat}
    (ordered : first ≤ second) :
    document.positionOf encoding first ≤ document.positionOf encoding second := by
  rcases document.exists_held first with ⟨earlier, head, tail, line, later, held⟩
  rcases document.exists_held second with ⟨earlier', head', tail', line', later', held'⟩
  have clamped := Text.clamp_mono document.text ordered
  rw [← document.positionOf_clamp encoding first, ← document.positionOf_clamp encoding second]
  rcases held.toNat_positionOf fits with ⟨lineEq, characterEq⟩
  rcases held'.toNat_positionOf fits with ⟨lineEq', characterEq'⟩
  rcases held.order held' clamped with above | ⟨same, between, longer⟩
  · left
    rw [UInt32.lt_iff_toNat_lt, lineEq, lineEq']
    exact above
  · right
    constructor
    · rw [← UInt32.toNat_inj, lineEq, lineEq', same]
    · rw [UInt32.le_iff_toNat_le, characterEq, characterEq', longer]
      simp

/-! ## From positions to offsets -/

/-- A position behind the last line is resolved as one on an empty line at the end. -/
theorem offsetOf_eq (document : Document) (encoding : PositionEncoding) (position : Position) :
    document.offsetOf encoding position =
      document.lineStart position.line.toNat +
        encoding.byteOfColumn (document.line position.line.toNat) position.character := by
  rw [offsetOf]
  split
  next => rfl
  next noLine =>
    have beyond := Nat.le_of_not_lt noLine
    rw [line_of_le beyond, lineStart_of_le beyond]
    rfl

/-- A later position is not resolved to an earlier offset, whether any of the two exists or not. -/
theorem offsetOf_mono (document : Document) (encoding : PositionEncoding) {first second : Position}
    (ordered : first ≤ second) :
    document.offsetOf encoding first ≤ document.offsetOf encoding second := by
  simp only [offsetOf_eq]
  rcases ordered with above | ⟨sameLine, before⟩
  · rw [UInt32.lt_iff_toNat_lt] at above
    have starts := document.lineStart_add_le above
    have inside := encoding.bytesToColumn_le first.character 0 (document.line first.line.toNat)
    simp only [PositionEncoding.byteOfColumn]
    omega
  · rw [sameLine]
    have columns := encoding.bytesToColumn_mono before 0 (document.line second.line.toNat)
    simp only [PositionEncoding.byteOfColumn]
    omega

theorem positionOf_offsetOf (fits : document.Fits encoding) {position : Position}
    (onLine : document.IsOnLine encoding position) :
    document.positionOf encoding (document.offsetOf encoding position) = position := by
  rcases onLine with ⟨isLine, column, rest, content, characterEq⟩
  rcases Line.exists_split isLine with ⟨earlier, line, later, lines, index⟩
  rw [← index, line_of_lines lines] at content
  have located : document.Located (Line.joined earlier ++ column).byteLen earlier column rest
      line.ending later := by
    refine ⟨?_, rfl⟩
    rw [lines, ← content]
  have small := fits.unitCount_located located
  -- Columns stop growing at the greatest number, which no column inside the line can be.
  have bounded : rest ≠ [] → position.character.toNat < 0xFFFFFFFF := by
    intro more
    have := encoding.unitCount_pos more
    omega
  rw [located.offsetOf_eq index.symm characterEq bounded, located.positionOf_eq]
  have lineEq : UInt32.ofNat earlier.length = position.line := by
    rw [← UInt32.toNat_inj, fits.toNat_line located, index]
  have columnEq : encoding.columnUnits column = position.character := by
    rw [← UInt32.toNat_inj, encoding.toNat_columnUnits_of_lt column (by omega), characterEq]
  rw [lineEq, columnEq]

/-- In a document whose lines and columns can be told in 32 bits, an offset that is told as a
position comes back rounded down to a boundary, unless it lies between a carriage return and its
line feed, and a position on a line comes back as it was. If also the columns between the two
characters of a break can be told, the end of the line comes back for them, and positions are in the
order of their offsets. In any document at all, offsets are in the order of their positions, so that
the range between two positions in order has just the two offsets as its ends. -/
theorem positions_correspond (document : Document) (encoding : PositionEncoding) :
    (document.Fits encoding →
      (∀ offset, ¬document.IsInsideBreak offset →
        document.offsetOf encoding (document.positionOf encoding offset) =
          document.clamp offset) ∧
      ∀ position, document.IsOnLine encoding position →
        document.positionOf encoding (document.offsetOf encoding position) = position) ∧
    (document.FitsWithBreaks encoding →
      (∀ offset, document.IsInsideBreak offset →
        document.offsetOf encoding (document.positionOf encoding offset) =
          document.lineStart (document.lineOfOffset offset) +
            (document.line (document.lineOfOffset offset)).byteLen) ∧
      ∀ first second, first ≤ second →
        document.positionOf encoding first ≤ document.positionOf encoding second) ∧
    (∀ first second, first ≤ second →
      document.offsetOf encoding first ≤ document.offsetOf encoding second) ∧
    ∀ range : PositionRange, range.start ≤ range.stop →
      document.byteRangeOf encoding range =
        ⟨document.offsetOf encoding range.start, document.offsetOf encoding range.stop⟩ := by
  refine ⟨?_, ?_, ?_, ?_⟩
  · intro fits
    constructor
    · intro offset
      exact offsetOf_positionOf_of_not_inside fits
    · intro position
      exact positionOf_offsetOf fits
  · intro fits
    constructor
    · intro offset
      exact offsetOf_positionOf_of_inside fits
    · intro first second
      exact positionOf_mono fits
  · intro first second
    exact document.offsetOf_mono encoding
  · intro range ordered
    have inOrder := document.offsetOf_mono encoding ordered
    simp only [byteRangeOf, Nat.max_eq_right inOrder]

/-- An offset inside a letter of four bytes, one inside a break, and a position behind the
letter. -/
theorem positions_correspond_at_letter :
    let document : Document := ⟨"é\r\n😀b".toList⟩
    document.FitsWithBreaks .utf16 ∧
      ¬document.IsInsideBreak 5 ∧
      document.offsetOf .utf16 (document.positionOf .utf16 5) = 4 ∧
      document.IsInsideBreak 3 ∧
      document.offsetOf .utf16 (document.positionOf .utf16 3) = 2 ∧
      document.IsOnLine .utf16 ⟨1, 2⟩ ∧
      document.positionOf .utf16 (document.offsetOf .utf16 ⟨1, 2⟩) = ⟨1, 2⟩ ∧
      document.positionOf .utf16 3 ≤ document.positionOf .utf16 5 ∧
      document.offsetOf .utf16 ⟨0, 9⟩ ≤ document.offsetOf .utf16 ⟨1, 1⟩ ∧
      document.byteRangeOf .utf16 ⟨⟨0, 9⟩, ⟨1, 1⟩⟩ = ⟨2, 4⟩ := by
  intro document
  have fits : document.FitsWithBreaks .utf16 :=
    ⟨⟨by decide +kernel, by decide +kernel⟩, by decide +kernel⟩
  have outside : ¬document.IsInsideBreak 5 := by
    intro inside
    have clamped : document.clamp 5 = 4 := by decide +kernel
    have unchanged := inside.clamp_eq
    omega
  have inside : document.IsInsideBreak 3 :=
    ⟨['é'], "😀b".toList, by decide +kernel, by decide +kernel⟩
  have onLine : document.IsOnLine .utf16 ⟨1, 2⟩ :=
    ⟨by decide +kernel, ['😀'], ['b'], by decide +kernel, by decide +kernel⟩
  rcases positions_correspond document .utf16 with ⟨backAndForth, withBreaks, ordered, range⟩
  rcases backAndForth fits.toFits with ⟨toBoundary, unchanged⟩
  rcases withBreaks fits with ⟨toLineEnd, inOrder⟩
  have boundary := toBoundary 5 outside
  have lineEnd := toLineEnd 3 inside
  have between := range ⟨⟨0, 9⟩, ⟨1, 1⟩⟩ (by decide)
  have clamped : document.clamp 5 = 4 := by decide +kernel
  have ends : document.lineStart (document.lineOfOffset 3) +
      (document.line (document.lineOfOffset 3)).byteLen = 2 := by
    decide +kernel
  have start : document.offsetOf .utf16 ⟨0, 9⟩ = 2 := by decide +kernel
  have stop : document.offsetOf .utf16 ⟨1, 1⟩ = 4 := by decide +kernel
  rw [clamped] at boundary
  rw [ends] at lineEnd
  simp only [start, stop] at between
  exact ⟨fits, outside, boundary, inside, lineEnd, onLine, unchanged _ onLine,
    inOrder 3 5 (by decide), ordered _ _ (by decide), between⟩

end Document

end BatchLens
