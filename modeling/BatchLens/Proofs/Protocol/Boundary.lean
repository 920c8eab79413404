import Mathlib.Data.Set.Operations
import Mathlib.Order.Bounds.Defs
import BatchLens.Proofs.Protocol.LongDocument
import BatchLens.Proofs.Protocol.RoundTrip

/-!
# The boundary that a position is resolved to

Of all character boundaries of its line, a position is resolved to the last one up to which no more
units are counted than its column tells. Counting stops at the greatest number of 32 bits, and a
column of that number is not behind any boundary (`isGreatest_offsetOf`). What is replaced between
two positions is therefore made of whole characters, and no line break is parted at its ends.
-/

namespace BatchLens

namespace PositionEncoding

variable (encoding : PositionEncoding) {column : UInt32} {before behind : Text}

/-- The units of a text as a number of 32 bits, which stays at the greatest such number. -/
def boundedCount (text : Text) : Nat := min (encoding.unitCount text) 0xFFFFFFFF

theorem boundedCount_le_iff :
    encoding.boundedCount before ≤ column.toNat ↔
      encoding.unitCount before ≤ column.toNat ∨ column.toNat = 0xFFFFFFFF := by
  have columnSmall := column.toNat_lt
  rw [boundedCount]
  omega

/-- No more units are counted up to the boundary that is found than the column tells. -/
theorem boundedCount_le_of_byteOfColumn
    (found : encoding.byteOfColumn (before ++ behind) column = before.byteLen) :
    encoding.boundedCount before ≤ column.toNat := by
  have columnSmall := column.toNat_lt
  rw [boundedCount_le_iff]
  rcases Nat.lt_or_ge column.toNat 0xFFFFFFFF with bounded | greatest
  · left
    simpa using encoding.unitCount_le_of_bytesToColumn bounded (Nat.zero_le _) found
  · right
    omega

/-- Every boundary up to which no more units are counted is reached. -/
theorem byteLen_le_byteOfColumn (counted : encoding.boundedCount before ≤ column.toNat) :
    before.byteLen ≤ encoding.byteOfColumn (before ++ behind) column := by
  have columnSmall := column.toNat_lt
  by_cases greatest : column.toNat = 0xFFFFFFFF
  · obtain rfl : column = 0xFFFFFFFF := UInt32.toNat_inj.mp greatest
    rw [byteOfColumn_greatest, Text.byteLen_append]
    exact Nat.le_add_right ..
  · have reached : encoding.unitCount before ≤ column.toNat :=
      (encoding.boundedCount_le_iff.mp counted).resolve_right greatest
    -- The column of the boundary itself is not greater than the one that is looked for.
    have own : (UInt32.ofNat (encoding.unitCount before)).toNat = encoding.unitCount before :=
      UInt32.toNat_ofNat_of_lt' (Nat.lt_of_le_of_lt reached columnSmall)
    have found : encoding.byteOfColumn (before ++ behind)
        (UInt32.ofNat (encoding.unitCount before)) = before.byteLen :=
      encoding.byteOfColumn_append own.symm (by omega)
    rw [← found]
    apply encoding.bytesToColumn_mono
    rw [UInt32.le_iff_toNat_le, own]
    exact reached

end PositionEncoding

namespace Document

variable {document : Document} {encoding : PositionEncoding} {position : Position}

/-- The character boundaries in the content of the line of a position, up to which no more is
counted than its column tells. -/
def boundariesUpTo (document : Document) (count : Text → Nat) (position : Position) : Set Nat :=
  let start := document.lineStart position.line.toNat
  {offset | document.clamp offset = offset ∧ start ≤ offset ∧
    offset ≤ start + (document.line position.line.toNat).byteLen ∧
    count (document.slice ⟨start, offset⟩) ≤ position.character.toNat}

/-- Such a boundary cuts the content of the line in two. -/
theorem mem_boundariesUpTo {count : Text → Nat} {earlier later : List Line} {line : Line}
    (lines : document.lines = earlier ++ line :: later)
    (lineEq : position.line.toNat = earlier.length) {offset : Nat} :
    offset ∈ document.boundariesUpTo count position ↔
      ∃ column rest, line.content = column ++ rest ∧
        offset = (Line.joined earlier).byteLen + column.byteLen ∧
        count column ≤ position.character.toNat := by
  simp only [boundariesUpTo, Set.mem_ofPred_eq, lineEq, lineStart_of_lines lines,
    line_of_lines lines]
  have located {column rest : Text} (content : line.content = column ++ rest) :
      document.Located ((Line.joined earlier).byteLen + column.byteLen) earlier column rest
        line.ending later := by
    refine ⟨?_, by rw [Text.byteLen_append]⟩
    rw [lines, ← content]
  have slice_eq {column rest : Text} (content : line.content = column ++ rest) :
      document.slice ⟨(Line.joined earlier).byteLen,
        (Line.joined earlier).byteLen + column.byteLen⟩ = column := by
    have sliced := (located content).slice_eq
    rwa [lineStart_of_lines lines] at sliced
  constructor
  · rintro ⟨isBoundary, behindStart, inLine, counted⟩
    rcases Text.exists_cut_clamp document.text offset with ⟨before, behind, cut, length⟩
    have settled : before.byteLen = offset := length.trans isBoundary
    have noColumn : line.content = [] ++ line.content := rfl
    have text := Text.text_eq_of_linesBy lines noColumn
    rw [List.append_nil] at text
    -- The boundary lies behind the start of the line, and not behind the end of its content.
    rcases Text.cut_of_byteLen_le (text.symm.trans cut) (by omega) with ⟨column, rfl, same⟩
    rw [Text.byteLen_append] at settled
    rcases Text.cut_of_byteLen_le same.symm (by omega) with ⟨rest, content, _⟩
    rw [← settled, slice_eq content] at counted
    exact ⟨column, rest, content, settled.symm, counted⟩
  · rintro ⟨column, rest, content, rfl, counted⟩
    refine ⟨(located content).clamp_eq, Nat.le_add_right .., ?_, ?_⟩
    · rw [content, Text.byteLen_append]
      omega
    · rwa [slice_eq content]

/-- A position on an existing line is resolved to the last of these boundaries. -/
theorem isGreatest_offsetOf (isLine : position.line.toNat < document.lineCount) :
    IsGreatest (document.boundariesUpTo encoding.boundedCount position)
      (document.offsetOf encoding position) := by
  rcases Line.exists_split isLine with ⟨earlier, line, later, lines, index⟩
  have offset_eq : document.offsetOf encoding position =
      (Line.joined earlier).byteLen + encoding.byteOfColumn line.content position.character := by
    rw [offsetOf_eq, ← index, lineStart_of_lines lines, line_of_lines lines]
  constructor
  · rw [mem_boundariesUpTo lines index.symm, offset_eq]
    rcases encoding.exists_cut_byteOfColumn position.character line.content with
      ⟨column, rest, content, found⟩
    rw [content] at found
    exact ⟨column, rest, content, by rw [content, found],
      encoding.boundedCount_le_of_byteOfColumn found⟩
  · intro offset isBoundary
    rcases (mem_boundariesUpTo lines index.symm).mp isBoundary with
      ⟨column, rest, content, rfl, counted⟩
    rw [offset_eq, content]
    exact Nat.add_le_add_left (encoding.byteLen_le_byteOfColumn counted) _

/-- Where the count of 32 bits does not stop, or stops behind the column, it is the count of all
units. -/
theorem boundariesUpTo_boundedCount
    (small : position.character.toNat < 0xFFFFFFFF ∨
      encoding.unitCount (document.line position.line.toNat) < 0x100000000)
    (isLine : position.line.toNat < document.lineCount) :
    document.boundariesUpTo encoding.boundedCount position =
      document.boundariesUpTo encoding.unitCount position := by
  rcases Line.exists_split isLine with ⟨earlier, line, later, lines, index⟩
  ext offset
  rw [mem_boundariesUpTo lines index.symm, mem_boundariesUpTo lines index.symm]
  rw [← index, line_of_lines lines] at small
  constructor
  · rintro ⟨column, rest, content, offset_eq, counted⟩
    refine ⟨column, rest, content, offset_eq, ?_⟩
    rw [content, encoding.unitCount_append] at small
    rcases encoding.boundedCount_le_iff.mp counted with within | greatest
    · exact within
    · omega
  · rintro ⟨column, rest, content, offset_eq, counted⟩
    exact ⟨column, rest, content, offset_eq, Nat.le_trans (Nat.min_le_left ..) counted⟩

/-- The greatest column leads behind more units than it tells, if the line has more. -/
theorem not_isGreatest_of_long {line : Text} (plain : ∀ c ∈ line, Unicode.isLineBreak c = false)
    (long : 0x100000000 ≤ encoding.unitCount line) :
    ¬IsGreatest (boundariesUpTo ⟨line⟩ encoding.unitCount ⟨0, 0xFFFFFFFF⟩)
      (offsetOf ⟨line⟩ encoding ⟨0, 0xFFFFFFFF⟩) := by
  have located := located_end_of_plain plain
  rintro ⟨isBoundary, _⟩
  rw [offsetOf_end plain (.inr rfl)] at isBoundary
  rcases (mem_boundariesUpTo located.lines rfl).mp isBoundary with
    ⟨column, rest, content, offset_eq, counted⟩
  -- The boundary is the end of the line, so that all units of the line are counted.
  obtain rfl : line = column ++ rest := by simpa using content
  obtain rfl : rest = [] := by
    rw [Text.byteLen_append, Line.joined_nil, Text.byteLen_nil] at offset_eq
    exact Text.byteLen_eq_zero_iff.mp (by omega)
  rw [List.append_nil] at long
  exact absurd counted (Nat.not_le.mpr (Nat.lt_of_lt_of_le (by decide) long))

/-- At a place no line break is parted, however the text is cut there. -/
theorem IsPlace.not_splitsBreak {before behind : Text} (place : document.IsPlace before.byteLen)
    (cut : document.text = before ++ behind) : ¬Text.SplitsBreak before behind := by
  rcases place with ⟨first, second, text, sameLength, whole⟩
  obtain ⟨rfl, rfl⟩ := Text.cut_eq_of_byteLen_eq (text.symm.trans cut) sameLength
  exact whole

/-- What is replaced between two positions is a part of the text with no break parted at either
end. -/
theorem exists_cut_byteRangeOf (document : Document) (encoding : PositionEncoding)
    (range : PositionRange) :
    ∃ before removed behind, document.text = before ++ removed ++ behind ∧
      document.byteRangeOf encoding range = ⟨before.byteLen, (before ++ removed).byteLen⟩ ∧
      ¬Text.SplitsBreak before (removed ++ behind) ∧
      ¬Text.SplitsBreak (before ++ removed) behind := by
  rcases isPart_byteRangeOf document encoding range with ⟨before, removed, behind, cut, bytes⟩
  have startPlace := offsetOf_isPlace document encoding range.start
  have stopPlace := offsetOf_isPlace document encoding range.stop
  have starts : document.offsetOf encoding range.start = before.byteLen :=
    congrArg ByteRange.start bytes
  have stops : max (document.offsetOf encoding range.start)
      (document.offsetOf encoding range.stop) = (before ++ removed).byteLen :=
    congrArg ByteRange.stop bytes
  refine ⟨before, removed, behind, cut, bytes, ?_, ?_⟩
  · rw [starts] at startPlace
    exact startPlace.not_splitsBreak (by rw [cut, List.append_assoc])
  · have endPlace : document.IsPlace (before ++ removed).byteLen := by
      rw [← stops]
      rcases Nat.le_total (document.offsetOf encoding range.start)
        (document.offsetOf encoding range.stop) with ordered | reversed
      · rwa [Nat.max_eq_right ordered]
      · rwa [Nat.max_eq_left reversed]
    exact endPlace.not_splitsBreak cut

/-- Any position at all is resolved to the end of the document if its line does not exist, and
otherwise to the last boundary of that line up to which no more units are counted than its column
tells; the count stops at the greatest number of 32 bits, which matters for no smaller column and
for no line that it can count. So an edit between two positions, or an insertion at one, replaces
whole characters and parts no line break. -/
theorem offsetOf_last_boundary (document : Document) (encoding : PositionEncoding)
    (position : Position) :
    (document.lineCount ≤ position.line.toNat →
      document.offsetOf encoding position = document.length) ∧
    (position.line.toNat < document.lineCount →
      IsGreatest (document.boundariesUpTo encoding.boundedCount position)
          (document.offsetOf encoding position) ∧
        (position.character.toNat < 0xFFFFFFFF ∨
            encoding.unitCount (document.line position.line.toNat) < 0x100000000 →
          IsGreatest (document.boundariesUpTo encoding.unitCount position)
            (document.offsetOf encoding position))) ∧
    ∀ stop new, ∃ before removed behind, document.text = before ++ removed ++ behind ∧
      before.byteLen = document.offsetOf encoding position ∧
      document.replace (document.byteRangeOf encoding ⟨position, stop⟩) new =
        ⟨before ++ new ++ behind⟩ ∧
      (stop = position → removed = []) ∧
      ¬Text.SplitsBreak before (removed ++ behind) ∧
      ¬Text.SplitsBreak (before ++ removed) behind := by
  refine ⟨?_, ?_, ?_⟩
  · intro noLine
    rw [offsetOf, if_neg (Nat.not_lt.mpr noLine)]
  · intro isLine
    have greatest : IsGreatest (document.boundariesUpTo encoding.boundedCount position)
        (document.offsetOf encoding position) := isGreatest_offsetOf isLine
    refine ⟨greatest, ?_⟩
    intro small
    rwa [← boundariesUpTo_boundedCount small isLine]
  · intro stop new
    rcases exists_cut_byteRangeOf document encoding ⟨position, stop⟩ with
      ⟨before, removed, behind, cut, bytes, wholeStart, wholeStop⟩
    refine ⟨before, removed, behind, cut, (congrArg ByteRange.start bytes).symm, ?_, ?_,
      wholeStart, wholeStop⟩
    · rcases document with ⟨text⟩
      obtain rfl : text = before ++ removed ++ behind := cut
      rw [bytes, replace_cut]
    · rintro rfl
      have starts : document.offsetOf encoding stop = before.byteLen :=
        congrArg ByteRange.start bytes
      have stops : max (document.offsetOf encoding stop) (document.offsetOf encoding stop) =
          (before ++ removed).byteLen := congrArg ByteRange.stop bytes
      rw [Nat.max_self, starts, Text.byteLen_append] at stops
      exact Text.byteLen_eq_zero_iff.mp (by omega)

/-- The column between the two halves of a surrogate pair leads in front of the pair, and a line
that does not exist to the end. -/
theorem offsetOf_last_boundary_in_pair :
    let document : Document := ⟨"a😀\r\nb".toList⟩
    (document.lineCount ≤ 2 ∧ document.offsetOf .utf16 ⟨2, 0⟩ = document.length) ∧
    0 < document.lineCount ∧ PositionEncoding.utf16.unitCount (document.line 0) < 0x100000000 ∧
    document.offsetOf .utf16 ⟨0, 2⟩ = 1 ∧
    IsGreatest (document.boundariesUpTo PositionEncoding.utf16.boundedCount ⟨0, 2⟩) 1 ∧
    IsGreatest (document.boundariesUpTo PositionEncoding.utf16.unitCount ⟨0, 2⟩) 1 := by
  intro document
  have noLine : document.lineCount ≤ 2 := by decide
  have isLine : 0 < document.lineCount := by decide
  have small : PositionEncoding.utf16.unitCount (document.line 0) < 0x100000000 := by decide
  have found : document.offsetOf .utf16 ⟨0, 2⟩ = 1 := by decide
  have atEnd := (offsetOf_last_boundary document .utf16 ⟨2, 0⟩).1 noLine
  have onLine := (offsetOf_last_boundary document .utf16 ⟨0, 2⟩).2.1 isLine
  rw [found] at onLine
  exact ⟨⟨noLine, atEnd⟩, isLine, small, found, onLine.1, onLine.2 (.inr small)⟩

/-- In a line of 2^32 letters the greatest column leads to the end, behind one unit more than it
tells. -/
theorem not_offsetOf_last_boundary :
    let document : Document := ⟨List.replicate 0x100000000 'a'⟩
    let position : Position := ⟨0, 0xFFFFFFFF⟩
    position.line.toNat < document.lineCount ∧
      ¬IsGreatest (document.boundariesUpTo PositionEncoding.utf8.unitCount position)
        (document.offsetOf .utf8 position) := by
  intro document position
  have plain : ∀ c ∈ List.replicate 0x100000000 'a', Unicode.isLineBreak c = false := by
    intro c isIn
    rw [List.eq_of_mem_replicate isIn]
    rfl
  have long : 0x100000000 ≤
      PositionEncoding.utf8.unitCount (List.replicate 0x100000000 'a') := by
    rw [PositionEncoding.unitCount_replicate]
    decide
  exact ⟨(located_end_of_plain plain).isLine, not_isGreatest_of_long plain long⟩

end Document

end BatchLens
