import BatchLens.Proofs.Checked.Document
import BatchLens.Proofs.Text.Breaks

/-!
# Lines as a partition

Number, start and content of a line are told by different accessors, and an edit may join a carriage
return and a line feed or separate them. Still the accessors always describe one partition of the
text (`partitionedIntoLines_afterEdits`): the pieces between the starts of consecutive lines put the
text together, a line is its piece without the one break that ends it, and every offset belongs to
the one line in whose piece it lies.
-/

namespace BatchLens

namespace Line

/-- All that can end a line but the last. -/
def endings : List Text :=
  [['\n'], ['\r'], ['\r', '\n'], ['\x0B'], ['\x0C'], ['\u0085'], ['\u2028'], ['\u2029']]

theorem mem_endings {ending : Text} (ends : Text.IsEnding Unicode.isLineBreak ending) :
    ending ∈ endings := by
  rcases ends with rfl | ⟨c, isBreak, rfl⟩
  · decide
  · simp only [Text.isLineBreak_eq, Text.isProtocolBreak, Text.isExtraBreak, Bool.or_eq_true,
      beq_iff_eq] at isBreak
    rcases isBreak with (rfl | rfl) | (((rfl | rfl) | rfl) | rfl) | rfl <;> decide

end Line

/-- What is done to a document: all of its text is replaced, or the text in a range of it. -/
inductive Edit where
  | setText (text : Text)
  | replace (range : ByteRange) (text : Text)

namespace Document

/-- The document after an edit. -/
def afterEdit (document : Document) : Edit → Document
  | .setText text => ⟨text⟩
  | .replace range text => document.replace range text

/-- The text from the start of a line to the start of the next one or, behind the last, to the
end. -/
def piece (document : Document) (index : Nat) : Text :=
  document.slice ⟨document.lineStart index, document.lineStart (index + 1)⟩

/-- Whether the accessors of a document describe one partition of its text into lines. -/
structure PartitionedIntoLines (document : Document) : Prop where
  lineStart_zero : document.lineStart 0 = 0
  lineStart_lt : ∀ first second, first < second → second < document.lineCount →
    document.lineStart first < document.lineStart second
  /-- Only an empty text, or one that ends in a break, has nothing in its last line. -/
  lineStart_last : ∃ last, document.lineCount = last + 1 ∧
    (document.lineStart last = document.length ↔
      document.text = [] ∨ ∃ c, document.text.getLast? = some c ∧ Unicode.isLineBreak c = true)
  /-- No line starts between a carriage return and its line feed. -/
  isPlace_lineStart : ∀ index < document.lineCount, document.IsPlace (document.lineStart index)
  flatMap_piece : (List.range document.lineCount).flatMap document.piece = document.text
  line_plain : ∀ index, ∀ c ∈ document.line index, Unicode.isLineBreak c = false
  piece_eq : ∀ index < document.lineCount, ∃ ending,
    document.piece index = document.line index ++ ending ∧
      if index + 1 < document.lineCount then ending ∈ Line.endings else ending = []
  /-- The run of breaks that is cut off at the end of a piece is never more than that ending. -/
  dropEndWhile_piece : ∀ index < document.lineCount,
    (document.piece index).dropEndWhile Unicode.isLineBreak = document.line index
  lineOfOffset_eq_iff : ∀ offset index, document.lineOfOffset offset = index ↔
    index < document.lineCount ∧ document.lineStart index ≤ document.clamp offset ∧
      (index + 1 < document.lineCount → document.clamp offset < document.lineStart (index + 1))

variable {document : Document}

/-! ## The piece of a line -/

section Lines

variable {earlier later : List Line} {line : Line}

theorem piece_of_lines (lines : document.lines = earlier ++ line :: later) :
    document.piece earlier.length = line.spelling := by
  have text : document.text = Line.joined earlier ++ line.spelling ++ Line.joined later := by
    rw [← joined_lines document, lines]
    simp [Line.spelling]
  rw [piece, slice, lineStart_of_lines lines, lineStart_succ_of_lines lines, text]
  exact Text.slice_cut _ _ _

theorem ending_of_lines (lines : document.lines = earlier ++ line :: later) :
    if later = [] then line.ending = [] else Text.IsEnding Unicode.isLineBreak line.ending := by
  have areLines := areLines_of_lines lines
  split
  next isLast =>
    subst isLast
    rcases areLines.exists_last with ⟨_, _, same⟩
    have last := (List.append_inj' same rfl).2
    simp only [List.cons.injEq, and_true] at last
    rw [last]
  next follows => exact areLines.ending follows

end Lines

theorem map_piece (document : Document) :
    (List.range document.lineCount).map document.piece = document.lines.map Line.spelling := by
  apply List.ext_getElem
  · simp [lineCount]
  · intro index isNumber isLine
    simp only [List.length_map] at isLine
    rcases Line.exists_split isLine with ⟨earlier, line, later, lines, rfl⟩
    rw [List.getElem_map, List.getElem_map, List.getElem_range, piece_of_lines lines]
    simp [lines]

/-- The pieces of the lines put the text together. -/
theorem flatMap_piece (document : Document) :
    (List.range document.lineCount).flatMap document.piece = document.text := by
  rw [List.flatMap_def, map_piece, ← List.flatMap_def]
  exact joined_lines document

theorem line_plain (document : Document) (index : Nat) :
    ∀ c ∈ document.line index, Unicode.isLineBreak c = false := by
  rcases Nat.lt_or_ge index document.lineCount with isLine | noLine
  · rcases Line.exists_split isLine with ⟨earlier, line, later, lines, rfl⟩
    rw [line_of_lines lines]
    exact (areLines_of_lines lines).plain (by simp)
  · rw [line_of_le noLine]
    exact fun c isIn => absurd isIn List.not_mem_nil

theorem exists_ending_of_piece {index : Nat} (isLine : index < document.lineCount) :
    ∃ ending, document.piece index = document.line index ++ ending ∧
      if index + 1 < document.lineCount then ending ∈ Line.endings else ending = [] := by
  rcases Line.exists_split isLine with ⟨earlier, line, later, lines, rfl⟩
  refine ⟨line.ending, by rw [piece_of_lines lines, line_of_lines lines, Line.spelling], ?_⟩
  have ends := ending_of_lines lines
  rw [lineCount_of_lines lines]
  cases later with
  | nil => simpa using ends
  | cons next others => simpa using Line.mem_endings ends

theorem dropEndWhile_piece {index : Nat} (isLine : index < document.lineCount) :
    (document.piece index).dropEndWhile Unicode.isLineBreak = document.line index := by
  rcases Line.exists_split isLine with ⟨earlier, line, later, lines, rfl⟩
  rw [piece_of_lines lines, line_of_lines lines]
  exact Checked.dropEndWhile_spelling document (by simp [lines])

/-! ## The starts of the lines -/

theorem lineStart_lt_lineStart {first second : Nat} (above : first < second)
    (isLine : second < document.lineCount) :
    document.lineStart first < document.lineStart second := by
  rcases Line.exists_split (Nat.lt_trans above isLine) with ⟨earlier, line, later, lines, rfl⟩
  have follows : later ≠ [] := by
    rintro rfl
    rw [lineCount_of_lines lines, List.length_nil] at isLine
    omega
  have ends := ending_of_lines lines
  rw [if_neg follows] at ends
  have positive := Text.byteLen_pos ends.ne_nil
  calc
    document.lineStart earlier.length < document.lineStart (earlier.length + 1) := by
      rw [lineStart_of_lines lines, lineStart_succ_of_lines lines, Line.spelling]
      simp only [Text.byteLen_append]
      omega
    _ ≤ document.lineStart second := document.lineStart_mono above

/-- The last line is empty only in an empty text and behind a break. -/
theorem last_eq_nil_iff {earlier : List Line} {column : Text}
    (lines : document.lines = earlier ++ [⟨column, []⟩]) :
    column = [] ↔
      document.text = [] ∨
        ∃ c, document.text.getLast? = some c ∧ Unicode.isLineBreak c = true := by
  have areLines := areLines_of_lines lines
  have text : document.text = Line.joined earlier ++ column := by
    rw [← joined_lines document, lines]
    simp
  constructor
  · rintro rfl
    rcases List.eq_nil_or_concat earlier with rfl | ⟨others, line, rfl⟩
    · exact .inl text
    · right
      have split : document.lines = others ++ line :: [⟨[], []⟩] := by simp [lines]
      have ends := ending_of_lines split
      rw [if_neg (by simp)] at ends
      have spelled : document.text = Line.joined others ++ line.content ++ line.ending := by
        simp [text]
      rcases ends with pair | ⟨c, isBreak, single⟩
      · exact ⟨'\n', by rw [spelled, pair]; simp, rfl⟩
      · exact ⟨c, by rw [spelled, single]; simp, isBreak⟩
  · rintro (nothing | ⟨c, isLast, isBreak⟩)
    · rw [text] at nothing
      exact (List.append_eq_nil_iff.mp nothing).2
    · rw [text, List.getLast?_append, Option.or_eq_some_iff] at isLast
      rcases isLast with inColumn | ⟨noColumn, _⟩
      · have isLine : ⟨column, []⟩ ∈ earlier ++ [⟨column, []⟩] := by simp
        have inside := areLines.plain isLine c (List.mem_of_getLast? inColumn)
        exact absurd (inside.symm.trans isBreak) Bool.false_ne_true
      · exact List.getLast?_eq_none_iff.mp noColumn

theorem exists_last_lineStart (document : Document) :
    ∃ last, document.lineCount = last + 1 ∧
      (document.lineStart last = document.length ↔
        document.text = [] ∨
          ∃ c, document.text.getLast? = some c ∧ Unicode.isLineBreak c = true) := by
  rcases Text.exists_last_line Unicode.isLineBreak document.text with ⟨earlier, column, lines⟩
  have lines : document.lines = earlier ++ [⟨column, []⟩] := lines
  refine ⟨earlier.length, lineCount_of_lines lines, ?_⟩
  rw [← last_eq_nil_iff lines, lineStart_of_lines lines, length, ← joined_lines document, lines]
  simp [Text.byteLen_eq_zero_iff]

theorem isPlace_lineStart {index : Nat} (isLine : index < document.lineCount) :
    document.IsPlace (document.lineStart index) := by
  rcases Line.exists_split isLine with ⟨earlier, ⟨content, ending⟩, later, lines, rfl⟩
  have located : document.Located (document.lineStart earlier.length) earlier [] content ending
      later := ⟨lines, by rw [lineStart_of_lines lines, List.append_nil]⟩
  exact isPlace_of_located located

/-! ## The line of an offset -/

/-- The line of an offset starts at or before it, and ends behind it unless it is the last. -/
theorem lineOfOffset_holds (document : Document) (offset : Nat) :
    document.lineStart (document.lineOfOffset offset) ≤ document.clamp offset ∧
      (document.lineOfOffset offset + 1 < document.lineCount →
        document.clamp offset < document.lineStart (document.lineOfOffset offset + 1)) := by
  rcases document.exists_held offset with ⟨earlier, head, tail, line, later, held⟩
  have number : document.lineOfOffset offset = earlier.length := by
    rw [← held.lineOfOffset_eq, lineOfOffset_clamp]
  rw [number, held.lineStart_eq, lineStart_succ_of_lines held.lines, held.offset_eq,
    held.spelling_eq]
  simp only [Text.byteLen_append]
  refine ⟨Nat.le_add_right .., ?_⟩
  intro isLine
  have follows : later ≠ [] := by
    rintro rfl
    rw [lineCount_of_lines held.lines, List.length_nil] at isLine
    omega
  have positive := Text.byteLen_pos (held.inside follows)
  omega

/-- No other line starts at or before an offset and ends behind it. -/
theorem lineOfOffset_eq_iff {offset index : Nat} :
    document.lineOfOffset offset = index ↔
      index < document.lineCount ∧ document.lineStart index ≤ document.clamp offset ∧
        (index + 1 < document.lineCount →
          document.clamp offset < document.lineStart (index + 1)) := by
  have isLine := document.lineOfOffset_lt offset
  rcases document.lineOfOffset_holds offset with ⟨starts, ends⟩
  constructor
  · rintro rfl
    exact ⟨isLine, starts, ends⟩
  · rintro ⟨isOther, otherStarts, otherEnds⟩
    rcases Nat.lt_trichotomy (document.lineOfOffset offset) index with above | same | below
    · have next : document.lineOfOffset offset + 1 ≤ index := above
      have ordered := document.lineStart_mono next
      have endsHere := ends (by omega)
      omega
    · exact same
    · have next : index + 1 ≤ document.lineOfOffset offset := below
      have ordered := document.lineStart_mono next
      have endsHere := otherEnds (by omega)
      omega

/-! ## All accessors together -/

/-- Whatever edits a document has been through, its accessors describe one partition of its text
into lines. -/
theorem partitionedIntoLines_afterEdits (text : Text) (edits : List Edit) :
    (edits.foldl afterEdit ⟨text⟩).PartitionedIntoLines := by
  -- An edit leaves nothing behind but a text, so that every document has to be looked at.
  generalize edits.foldl afterEdit ⟨text⟩ = document
  exact {
    lineStart_zero := rfl
    lineStart_lt := fun _ _ above isLine => lineStart_lt_lineStart above isLine
    lineStart_last := document.exists_last_lineStart
    isPlace_lineStart := fun _ isLine => isPlace_lineStart isLine
    flatMap_piece := flatMap_piece document
    line_plain := fun _ => line_plain document _
    piece_eq := fun _ isLine => exists_ending_of_piece isLine
    dropEndWhile_piece := fun _ isLine => dropEndWhile_piece isLine
    lineOfOffset_eq_iff := fun _ _ => lineOfOffset_eq_iff }

end Document

end BatchLens
