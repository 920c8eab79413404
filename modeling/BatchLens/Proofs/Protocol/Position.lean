import BatchLens.Proofs.Place
import BatchLens.Proofs.Protocol.Column

/-!
# Positions and places

What an editor calls a position is resolved to a place of the document, whatever its two numbers
are (`offsetOf_isPlace`). In a document whose lines and columns fit into 32 bits every place has a
position of its own that is resolved to it (`offsetOf_positionOf`).
-/

namespace BatchLens.Document

variable {document : Document} {encoding : PositionEncoding}

/-- Whether the lines of a document, and the columns in each of them, can be told in 32 bits. -/
structure Fits (document : Document) (encoding : PositionEncoding) : Prop where
  lineCount_lt : document.lineCount < 0x100000000
  unitCount_lt : ∀ line ∈ document.lines, encoding.unitCount line.content < 0x100000000

/-- Whether the number of every line, and the column at which every character starts, can be told
in 32 bits. -/
structure StartsFit (document : Document) (encoding : PositionEncoding) : Prop where
  lineCount_le : document.lineCount ≤ 0x100000000
  unitCount_le : ∀ line ∈ document.lines, encoding.unitCount line.content ≤ 0x100000000

theorem Fits.startsFit (fits : document.Fits encoding) : document.StartsFit encoding :=
  ⟨Nat.le_of_lt fits.lineCount_lt, fun line isLine => Nat.le_of_lt (fits.unitCount_lt line isLine)⟩

/-- The end of a document is a place. -/
theorem isPlace_length (document : Document) : document.IsPlace document.length :=
  ⟨document.text, [], (List.append_nil _).symm, rfl, by simp [Text.SplitsBreak]⟩

/-- No position leads between the characters of a break or into a character. -/
theorem offsetOf_isPlace (document : Document) (encoding : PositionEncoding)
    (position : Position) : document.IsPlace (document.offsetOf encoding position) := by
  rw [offsetOf]
  split
  next isLine =>
    rcases Line.exists_split isLine with ⟨earlier, line, later, lines, index⟩
    rcases encoding.exists_cut_byteOfColumn position.character line.content with
      ⟨column, rest, content, found⟩
    rw [← index, lineStart_of_lines lines, line_of_lines lines, found, ← Text.byteLen_append]
    have cutLines : document.lines = earlier ++ ⟨column ++ rest, line.ending⟩ :: later := by
      rw [lines, ← content]
    exact isPlace_of_located ⟨cutLines, rfl⟩
  next => exact isPlace_length document

theorem isPart_byteRangeOf (document : Document) (encoding : PositionEncoding)
    (range : PositionRange) : (document.byteRangeOf encoding range).IsPart document.text := by
  rcases offsetOf_isPlace document encoding range.start with ⟨first, second, text, start, _⟩
  rcases offsetOf_isPlace document encoding range.stop with ⟨third, fourth, text', stop, _⟩
  rw [byteRangeOf, ← start, ← stop]
  exact ByteRange.isPart_of_cuts text text'

section Located

variable {offset : Nat} {earlier later : List Line} {column rest ending : Text}

/-- A position that tells the number of a line and the units in front of a place is resolved to
that place. Where more of the line follows, the column must not be the greatest number. -/
theorem Located.offsetOf_eq (located : document.Located offset earlier column rest ending later)
    {position : Position} (lineEq : position.line.toNat = earlier.length)
    (characterEq : position.character.toNat = encoding.unitCount column)
    (bounded : rest ≠ [] → position.character.toNat < 0xFFFFFFFF) :
    document.offsetOf encoding position = offset := by
  rw [offsetOf, lineEq, if_pos located.isLine, located.lineStart_eq, located.line_eq,
    encoding.byteOfColumn_append characterEq.symm bounded, located.offset_eq, Text.byteLen_append]

theorem Located.positionOf_eq
    (located : document.Located offset earlier column rest ending later) :
    document.positionOf encoding offset =
      ⟨UInt32.ofNat earlier.length, encoding.columnUnits column⟩ := by
  simp only [positionOf, located.clamp_eq, located.lineOfOffset_eq, located.slice_eq]

/-- A position on an earlier line is resolved to an earlier place, whatever its column. -/
theorem Located.offsetOf_lt (located : document.Located offset earlier column rest ending later)
    {position : Position} (above : position.line.toNat < earlier.length) :
    document.offsetOf encoding position < offset := by
  rcases Line.exists_split above with ⟨front, line, between, split, index⟩
  have lines : document.lines =
      front ++ line :: (between ++ ⟨column ++ rest, ending⟩ :: later) := by
    rw [located.lines, split, List.append_assoc, List.cons_append]
  have isLine : front.length < document.lineCount := by
    rw [lineCount_of_lines lines]
    omega
  have positive : 0 < line.ending.byteLen :=
    Text.byteLen_pos ((areLines_of_lines lines).ending (by simp)).ne_nil
  rcases encoding.exists_cut_byteOfColumn position.character line.content with
    ⟨reached, behind, content, found⟩
  rw [offsetOf, ← index, if_pos isLine, lineStart_of_lines lines, line_of_lines lines, found,
    located.offset_eq, split]
  simp only [Line.joined_append, Line.joined_cons, content, Text.byteLen_append]
  omega

/-- The position of a place whose line can be told in 32 bits leads back to it. -/
theorem Located.offsetOf_positionOf
    (located : document.Located offset earlier column rest ending later)
    (lineSmall : earlier.length < 0x100000000)
    (columnSmall : encoding.unitCount (column ++ rest) < 0x100000000) :
    document.offsetOf encoding (document.positionOf encoding offset) = offset := by
  have lineEq : (UInt32.ofNat earlier.length).toNat = earlier.length :=
    UInt32.toNat_ofNat_of_lt' lineSmall
  rw [located.positionOf_eq, offsetOf, lineEq, if_pos located.isLine, located.lineStart_eq,
    located.line_eq, encoding.byteOfColumn_columnUnits columnSmall, located.offset_eq,
    Text.byteLen_append]

theorem Fits.toNat_line (fits : document.Fits encoding)
    (located : document.Located offset earlier column rest ending later) :
    (UInt32.ofNat earlier.length).toNat = earlier.length := by
  have count := lineCount_of_lines located.lines
  have small := fits.lineCount_lt
  exact UInt32.toNat_ofNat_of_lt' (by simp only [UInt32.size]; omega)

theorem Fits.unitCount_located (fits : document.Fits encoding)
    (located : document.Located offset earlier column rest ending later) :
    encoding.unitCount column + encoding.unitCount rest < 0x100000000 := by
  have small := fits.unitCount_lt ⟨column ++ rest, ending⟩ (by simp [located.lines])
  simpa using small

end Located

/-- Every place has a position that leads back to it. -/
theorem offsetOf_positionOf (fits : document.Fits encoding) {offset : Nat}
    (place : document.IsPlace offset) :
    document.offsetOf encoding (document.positionOf encoding offset) = offset := by
  rcases place.exists_located with ⟨earlier, column, rest, ending, later, located⟩
  have count := lineCount_of_lines located.lines
  have lineSmall := fits.lineCount_lt
  have columnSmall := fits.unitCount_located located
  rw [← PositionEncoding.unitCount_append] at columnSmall
  exact located.offsetOf_positionOf (by omega) columnSmall

end BatchLens.Document
