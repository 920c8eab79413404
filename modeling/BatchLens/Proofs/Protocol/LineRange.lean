import BatchLens.Proofs.Protocol.Position

/-!
# Ranges on one line

The engines answer with parts of what one line says. Such a part has places of the document for its
ends, and the positions of these stand on that line and lead back to them (`tells_of_isPart`). To
lead back, a position needs the number of its line and its column in 32 bits.
-/

namespace BatchLens.Document

variable {document : Document} {index : Nat} {range : ByteRange}

/-- A range of bytes between two places, both in what one line says. -/
structure InLine (document : Document) (index : Nat) (range : ByteRange) : Prop where
  isLine : index < document.lineCount
  between : document.BetweenPlaces range
  le_start : document.lineStart index ≤ range.start
  ordered : range.start ≤ range.stop
  stop_le : range.stop ≤ document.lineStart index + (document.line index).byteLen

/-- A range of positions on one line that leads back to a range of bytes, if the number of the line
and its units can be told in 32 bits. -/
structure Tells (document : Document) (encoding : PositionEncoding) (index : Nat)
    (range : ByteRange) (positions : PositionRange) : Prop where
  start_line : positions.start.line = UInt32.ofNat index
  stop_line : positions.stop.line = UInt32.ofNat index
  leadsBack : index < 0x100000000 →
    encoding.unitCount (document.line index) < 0x100000000 →
    document.byteRangeOf encoding positions = range

theorem inLine_of_isPart (isLine : index < document.lineCount)
    (part : range.IsPart (document.line index)) :
    document.InLine index
      ⟨document.lineStart index + range.start, document.lineStart index + range.stop⟩ := by
  have between := betweenPlaces_of_isPart isLine part
  rcases part with ⟨before, middle, behind, line, rfl⟩
  refine ⟨isLine, between, Nat.le_add_right _ _, ?_, ?_⟩
  · simp
  · simp [line]

theorem tells_of_isPart (isLine : index < document.lineCount)
    (part : range.IsPart (document.line index)) (encoding : PositionEncoding) :
    document.Tells encoding index
      ⟨document.lineStart index + range.start, document.lineStart index + range.stop⟩
      (document.positionRangeOf encoding
        ⟨document.lineStart index + range.start, document.lineStart index + range.stop⟩) := by
  rcases Line.exists_split isLine with ⟨earlier, ⟨content, ending⟩, later, lines, rfl⟩
  rcases part with ⟨before, middle, behind, parts, rfl⟩
  rw [line_of_lines lines] at parts
  obtain rfl : content = before ++ middle ++ behind := parts
  have lineEq := line_of_lines lines
  rw [lineStart_of_lines lines]
  have start : document.Located ((Line.joined earlier).byteLen + before.byteLen) earlier before
      (middle ++ behind) ending later :=
    ⟨by rw [lines, List.append_assoc before], (Text.byteLen_append ..).symm⟩
  have stop : document.Located ((Line.joined earlier).byteLen + (before ++ middle).byteLen) earlier
      (before ++ middle) behind ending later :=
    ⟨lines, (Text.byteLen_append ..).symm⟩
  constructor
  · rw [positionRangeOf, start.positionOf_eq]
  · rw [positionRangeOf, stop.positionOf_eq]
  · intro lineSmall columnSmall
    rw [lineEq] at columnSmall
    have startBack := start.offsetOf_positionOf lineSmall (by rwa [← List.append_assoc])
    have stopBack := stop.offsetOf_positionOf lineSmall columnSmall
    have ordered : (Line.joined earlier).byteLen + before.byteLen ≤
        (Line.joined earlier).byteLen + (before ++ middle).byteLen := by
      rw [Text.byteLen_append]
      omega
    rw [byteRangeOf, positionRangeOf, startBack, stopBack, Nat.max_eq_right ordered]

end BatchLens.Document
