import BatchLens.Proofs.Batch.BarLine
import BatchLens.Proofs.Protocol.SemanticToken

/-!
# Documents beyond 32 bits

The number of a line is told up to multiples of 2^32, and so are the units in front of a column. A
place on a line whose number is 2^32 or more therefore has a position that leads to an earlier place
(`Located.offsetOf_positionOf_lt`), and the token of a bar behind 2^32 line feeds is on the first
line (`ofLines_barsApart`); behind 2^32 characters of a line it is at the start of the line
(`ofLines_barsInLine`). What is proved elsewhere of documents whose lines and columns can be
told in 32 bits ends with these documents. They are counted by a variable here, because no text of
their length can be written out.
-/

namespace BatchLens

/-! ## Empty lines in front -/

theorem Text.lines_replicate_append (count : Nat) (text : Text) :
    Text.lines (List.replicate count '\n' ++ text) =
      List.replicate count ⟨[], ['\n']⟩ ++ Text.lines text := by
  induction count with
  | zero => rfl
  | succ count ih =>
      rw [List.replicate_succ, List.cons_append, List.replicate_succ, List.cons_append, ← ih]
      exact linesBy_cons_of_isBreak rfl (by simp [SplitsBreak])

theorem Line.joined_replicate (count : Nat) :
    joined (List.replicate count ⟨[], ['\n']⟩) = List.replicate count '\n' := by
  induction count with
  | zero => rfl
  | succ count ih =>
      rw [List.replicate_succ, joined_cons, ih, List.replicate_succ]
      rfl

namespace Document

variable {document : Document} {encoding : PositionEncoding}

/-- Behind line feeds, the line of the end is numbered by them. -/
theorem located_behind_lineFeeds (count : Nat) :
    Located ⟨List.replicate count '\n'⟩ count (List.replicate count ⟨[], ['\n']⟩) [] [] [] [] := by
  constructor
  · have lines := Text.lines_replicate_append count []
    rw [List.append_nil] at lines
    exact lines
  · rw [Line.joined_replicate, List.append_nil, Text.byteLen_replicate]
    exact (Nat.mul_one count).symm

/-- The number of a line beyond 32 bits leads to an earlier line. -/
theorem Located.offsetOf_positionOf_lt {offset : Nat} {earlier later : List Line}
    {column rest ending : Text}
    (located : document.Located offset earlier column rest ending later)
    (beyond : 0x100000000 ≤ earlier.length) :
    document.offsetOf encoding (document.positionOf encoding offset) < offset := by
  apply located.offsetOf_lt
  rw [located.positionOf_eq]
  exact Nat.lt_of_lt_of_le (UInt32.toNat_lt _) beyond

/-! ## A single line -/

section Plain

variable {line : Text} (plain : ∀ c ∈ line, Unicode.isLineBreak c = false)

include plain

theorem lines_of_plain : lines ⟨line⟩ = [⟨line, []⟩] := Text.linesBy_of_plain rfl plain

theorem located_end_of_plain : Located ⟨line⟩ line.byteLen [] line [] [] [] :=
  ⟨by rw [lines_of_plain plain, List.append_nil, List.nil_append], rfl⟩

/-- The greatest column leads to the end, and so does every line that does not exist. -/
theorem offsetOf_end {position : Position}
    (behind : position.line ≠ 0 ∨ position.character = 0xFFFFFFFF) :
    offsetOf ⟨line⟩ encoding position = line.byteLen := by
  have located := located_end_of_plain plain
  have start := located.lineStart_eq
  have content := located.line_eq
  rw [List.length_nil] at start content
  by_cases isLine : position.line.toNat < lineCount ⟨line⟩
  · have isFirst : position.line.toNat = 0 := by
      rw [lineCount, lines_of_plain plain] at isLine
      exact Nat.lt_one_iff.mp isLine
    have greatest : position.character = 0xFFFFFFFF :=
      behind.resolve_left (not_not_intro (UInt32.toNat_inj.mp isFirst))
    rw [offsetOf, if_pos isLine, isFirst, start, content, greatest, encoding.byteOfColumn_greatest,
      List.append_nil]
    exact Nat.zero_add _
  · exact if_neg isLine

/-- The end of the line is told by its units, up to multiples of 2^32. -/
theorem positionOf_end : positionOf ⟨line⟩ encoding line.byteLen = ⟨0, encoding.columnUnits line⟩ :=
  (located_end_of_plain plain).positionOf_eq

end Plain

/-! ## Two bars on lines apart -/

/-- Two lines with a bar, the first one indented, and empty lines between them. -/
def barsApart (between : Nat) : Document :=
  ⟨[' ', '|'] ++ (List.replicate (between + 1) '\n' ++ ['|'])⟩

theorem lines_barsApart (between : Nat) :
    (barsApart between).lines =
      ⟨[' ', '|'], ['\n']⟩ :: (List.replicate between ⟨[], ['\n']⟩ ++ [⟨['|'], []⟩]) := by
  have inFront : Text.linesBy Unicode.isLineBreak [' ', '|'] = [] ++ [⟨[' ', '|'], []⟩] := by decide
  have behind := Text.lines_replicate_append (between + 1) ['|']
  rw [List.replicate_succ, List.cons_append] at behind
  exact Text.linesBy_append (by simp [Text.SplitsBreak]) inFront behind

theorem lineCount_barsApart (between : Nat) : (barsApart between).lineCount = between + 2 := by
  simp [lineCount, lines_barsApart]

end Document

namespace SemanticToken

variable (encoding : PositionEncoding)

theorem ofLine_nil (index : Nat) : ofLine encoding index [] = [] := by
  have classified : classify [] = [] := by decide
  simp [ofLine, classified, Span.resolveOverlaps, Span.keepApart]

theorem ofLine_bar (index : Nat) :
    ofLine encoding index ['|'] = [⟨UInt32.ofNat index, 0, 1, .operator⟩] := by
  have classified : classify ['|'] = [⟨0, 1, .operator⟩] := by decide +kernel
  have kept : Span.resolveOverlaps [⟨0, 1, .operator⟩] = [⟨0, 1, .operator⟩] :=
    Span.resolveOverlaps_of_pairwise (by decide)
  rw [ofLine, classified, kept]
  cases encoding <;> rfl

theorem ofLine_indented_bar (index : Nat) :
    ofLine encoding index [' ', '|'] = [⟨UInt32.ofNat index, 1, 1, .operator⟩] := by
  have classified : classify [' ', '|'] = [⟨1, 1, .operator⟩] := by decide +kernel
  have kept : Span.resolveOverlaps [⟨1, 1, .operator⟩] = [⟨1, 1, .operator⟩] :=
    Span.resolveOverlaps_of_pairwise (by decide)
  rw [ofLine, classified, kept]
  cases encoding <;> rfl

/-- The line of the second bar is told up to multiples of 2^32. -/
theorem ofLines_barsApart (between : Nat) :
    ofLines (.barsApart between) encoding 0 (Document.barsApart between).lineCount =
      [⟨0, 1, 1, .operator⟩, ⟨UInt32.ofNat (between + 1), 0, 1, .operator⟩] := by
  have noneBetween {onLine : Line × Nat → List PlacedToken}
      (none : ∀ index, onLine (⟨[], ['\n']⟩, index) = []) :
      ((List.replicate between ⟨[], ['\n']⟩).zipIdx 1).flatMap onLine = [] := by
    rw [List.flatMap_eq_nil_iff]
    rintro ⟨line, index⟩ isBetween
    obtain rfl := List.eq_of_mem_replicate (List.fst_mem_of_mem_zipIdx isBetween)
    exact none index
  rw [ofLines, Document.lineCount, List.drop_zero, List.take_of_length_le (by simp),
    Document.lines_barsApart, List.zipIdx_cons, List.flatMap_cons, List.zipIdx_append,
    List.flatMap_append, Nat.zero_add, noneBetween (by exact ofLine_nil encoding)]
  simp [ofLine_indented_bar, ofLine_bar, Nat.add_comm]

theorem ofLines_first_of_barsApart (between : Nat) :
    ofLines (.barsApart between) encoding 0 1 = [⟨0, 1, 1, .operator⟩] := by
  rw [ofLines, Document.lines_barsApart, List.zipIdx_cons]
  simp [ofLine_indented_bar]

/-! ## Two bars on one line -/

theorem unitCount_in_front (between : Nat) :
    encoding.unitCount ([' ', '|'] ++ List.replicate (between + 1) ' ') = between + 3 := by
  have space : encoding.width ' ' = 1 := by cases encoding <;> rfl
  have bar : encoding.width '|' = 1 := by cases encoding <;> rfl
  simp only [PositionEncoding.unitCount_append, PositionEncoding.unitCount_cons,
    PositionEncoding.unitCount_nil, PositionEncoding.unitCount_replicate, space, bar]
  omega

theorem unitCount_barsInLine (between : Nat) :
    encoding.unitCount (Classification.barsInLine between) = between + 4 := by
  have bar : encoding.unitCount ['|'] = 1 := by cases encoding <;> rfl
  rw [Classification.barsInLine, ← List.append_assoc, PositionEncoding.unitCount_append,
    unitCount_in_front, bar]

theorem place_of_covers {span : Span} {line before middle behind : Text}
    (covers : span.Covers line before middle behind) (index : Nat) :
    place encoding index line span =
      ⟨UInt32.ofNat index, encoding.columnUnits before, encoding.columnUnits middle,
        span.category⟩ := by
  rw [place, covers.takeBytes_start, covers.text_under]

/-- The start of the second bar is told up to multiples of 2^32. -/
theorem ofLine_barsInLine (index between : Nat) :
    ofLine encoding index (Classification.barsInLine between) =
      [⟨UInt32.ofNat index, 1, 1, .operator⟩,
        ⟨UInt32.ofNat index, UInt32.ofNat (between + 3), 1, .operator⟩] := by
  have kept : Span.resolveOverlaps [⟨1, 1, .operator⟩, ⟨between + 3, 1, .operator⟩] =
      [⟨1, 1, .operator⟩, ⟨between + 3, 1, .operator⟩] := by
    have behind : ¬between + 3 < 2 := by omega
    rw [Span.resolveOverlaps_of_pairwise (by simp [Span.startsBefore])]
    simp [Span.keepApart, Span.stop, behind]
  have first : (Span.mk 1 1 .operator).Covers (Classification.barsInLine between) [' '] ['|']
      (List.replicate (between + 1) ' ' ++ ['|']) := ⟨rfl, rfl, rfl⟩
  have second : (Span.mk (between + 3) 1 .operator).Covers (Classification.barsInLine between)
      ([' ', '|'] ++ List.replicate (between + 1) ' ') ['|'] [] := by
    refine ⟨by simp [Classification.barsInLine], ?_, rfl⟩
    have space : ' '.utf8Size = 1 := rfl
    have inFront : Text.byteLen [' ', '|'] = 2 := rfl
    rw [Text.byteLen_append, Text.byteLen_replicate, space, inFront, Nat.mul_one]
    exact Nat.add_comm (between + 1) 2
  have bar : encoding.columnUnits ['|'] = 1 := by cases encoding <;> rfl
  have space : encoding.columnUnits [' '] = 1 := by cases encoding <;> rfl
  have inFront : encoding.columnUnits ([' ', '|'] ++ List.replicate (between + 1) ' ') =
      UInt32.ofNat (between + 3) := by
    rw [← UInt32.toNat_inj, encoding.toNat_columnUnits, unitCount_in_front, UInt32.toNat_ofNat']
  rw [ofLine, Classification.classify_barsInLine, kept, List.map_cons, List.map_singleton,
    place_of_covers encoding first, place_of_covers encoding second, inFront, bar, space]
  rfl

theorem ofLines_barsInLine (between : Nat) :
    ofLines ⟨Classification.barsInLine between⟩ encoding 0 1 =
      [⟨0, 1, 1, .operator⟩, ⟨0, UInt32.ofNat (between + 3), 1, .operator⟩] := by
  have plain : ∀ c ∈ Classification.barsInLine between, Unicode.isLineBreak c = false := by
    intro c isIn
    rcases Classification.eq_of_mem_barsInLine isIn with rfl | rfl <;> rfl
  rw [ofLines, Document.lines_of_plain plain]
  simp [ofLine_barsInLine]

end SemanticToken

end BatchLens
