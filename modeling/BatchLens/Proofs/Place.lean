import BatchLens.Document
import BatchLens.Proofs.Text.Lines

/-!
# Places in a document

A place lies between two characters of a document, but not between a carriage return and its line
feed. Every place lies in the content of exactly one line, at a character boundary of that line,
and every such boundary is a place (`IsPlace.exists_located`, `isPlace_of_located`). The accessors
of a document are computed for a place from the lines around it: its line number is the number of
the lines in front, which together with the column in front of it make up its offset.
-/

namespace BatchLens

namespace Text

/-- The line that holds an offset inside it, or at the end of the last line. -/
theorem lineHolding_append (earlier : List Line) (line : Line) (later : List Line) (column : Nat)
    (inside : later ≠ [] → column < line.byteLen) :
    lineHolding (earlier ++ line :: later) (Line.totalLen earlier + column) = earlier.length := by
  induction earlier with
  | nil =>
      cases later with
      | nil => rfl
      | cons next later =>
          have before : Line.totalLen [] + column < line.byteLen := by
            simpa [Line.totalLen] using inside (by simp)
          rw [List.nil_append, lineHolding, if_pos before, List.length_nil]
          simp
  | cons first earlier ih =>
      have passed : ¬(Line.totalLen (first :: earlier) + column < first.byteLen) := by
        simp only [Line.totalLen]
        omega
      have remaining : Line.totalLen (first :: earlier) + column - first.byteLen =
          Line.totalLen earlier + column := by
        simp only [Line.totalLen]
        omega
      rw [List.cons_append, lineHolding, if_neg passed, remaining, ih, List.length_cons]
      simp

theorem lineHolding_lt {lines : List Line} (nonempty : lines ≠ []) (offset : Nat) :
    lineHolding lines offset < lines.length := by
  fun_induction lineHolding lines offset with
  | case1 => exact absurd rfl nonempty
  | case2 => simp
  | case3 => simp
  | case4 line others offset follows passed ih =>
      have later := ih (by simpa using follows)
      rw [List.length_cons]
      omega

end Text

namespace Document

variable {document : Document}

/-! ## Lines by their number -/

theorem lineCount_of_lines {earlier later : List Line} {line : Line}
    (lines : document.lines = earlier ++ line :: later) :
    document.lineCount = earlier.length + (later.length + 1) := by
  rw [lineCount, lines, List.length_append, List.length_cons]

theorem line_of_lines {earlier later : List Line} {line : Line}
    (lines : document.lines = earlier ++ line :: later) :
    document.line earlier.length = line.content := by
  simp [Document.line, lines]

theorem lineStart_of_lines {earlier later : List Line} {line : Line}
    (lines : document.lines = earlier ++ line :: later) :
    document.lineStart earlier.length = (Line.joined earlier).byteLen := by
  simp [lineStart, lines]

/-- The next line, or the end, comes right behind what a line spells. -/
theorem lineStart_succ_of_lines {earlier later : List Line} {line : Line}
    (lines : document.lines = earlier ++ line :: later) :
    document.lineStart (earlier.length + 1) =
      (Line.joined earlier ++ line.spelling).byteLen := by
  have taken : document.lines.take (earlier.length + 1) = earlier ++ [line] := by
    rw [lines, List.take_length_add_append, List.take_one]
    rfl
  rw [lineStart, taken, Line.totalLen_eq_byteLen_joined, Line.joined_append]
  simp [Line.spelling]

theorem areLines_of_lines {lines : List Line} (areAll : document.lines = lines) :
    Text.AreLines Unicode.isLineBreak lines := by
  rw [← areAll]
  exact Text.areLines_linesBy document.text

theorem lineOfOffset_lt (document : Document) (offset : Nat) :
    document.lineOfOffset offset < document.lineCount :=
  Text.lineHolding_lt (Text.linesBy_ne_nil document.text) _

/-! ## Places -/

/-- Whether an offset lies between two characters, but not inside a break of two. -/
def IsPlace (document : Document) (offset : Nat) : Prop :=
  ∃ before behind, document.text = before ++ behind ∧ before.byteLen = offset ∧
    ¬Text.SplitsBreak before behind

theorem IsPlace.clamp_eq {offset : Nat} (place : document.IsPlace offset) :
    document.clamp offset = offset := by
  rcases place with ⟨before, behind, text, rfl, _⟩
  rw [clamp, text, Text.clamp_cut]

/-- Whether both ends of a range are places. -/
structure BetweenPlaces (document : Document) (range : ByteRange) : Prop where
  start : document.IsPlace range.start
  stop : document.IsPlace range.stop

/-- A place by the line that holds it: the lines in front, what the line says on both sides of the
place, its break, and the lines behind. -/
structure Located (document : Document) (offset : Nat) (earlier : List Line)
    (column rest ending : Text) (later : List Line) : Prop where
  lines : document.lines = earlier ++ ⟨column ++ rest, ending⟩ :: later
  offset_eq : offset = (Line.joined earlier ++ column).byteLen

/-- A cut that splits no break is a place in the line that its halves share. -/
theorem located_of_cut {before behind : Text} (whole : ¬Text.SplitsBreak before behind)
    {earlier : List Line} {column : Text}
    (beforeLines : Text.linesBy Unicode.isLineBreak before = earlier ++ [⟨column, []⟩])
    {rest ending : Text} {later : List Line}
    (behindLines : Text.linesBy Unicode.isLineBreak behind = ⟨rest, ending⟩ :: later) :
    Located ⟨before ++ behind⟩ before.byteLen earlier column rest ending later := by
  refine ⟨Text.linesBy_append whole beforeLines behindLines, ?_⟩
  have joined := Text.joined_linesBy Unicode.isLineBreak before
  rw [beforeLines] at joined
  rw [← joined]
  simp

theorem IsPlace.exists_located {offset : Nat} (place : document.IsPlace offset) :
    ∃ earlier column rest ending later,
      document.Located offset earlier column rest ending later := by
  rcases document with ⟨text⟩
  rcases place with ⟨before, behind, rfl, rfl, whole⟩
  rcases Text.exists_last_line Unicode.isLineBreak before with
    ⟨earlier, column, beforeLines⟩
  rcases Text.exists_first_line Unicode.isLineBreak behind with
    ⟨⟨rest, ending⟩, later, behindLines⟩
  exact ⟨earlier, column, rest, ending, later, located_of_cut whole beforeLines behindLines⟩

section Located

variable {offset : Nat} {earlier later : List Line} {column rest ending : Text}

theorem Located.text_eq (located : document.Located offset earlier column rest ending later) :
    document.text =
      (Line.joined earlier ++ column) ++ (rest ++ (ending ++ Line.joined later)) :=
  Text.text_eq_of_linesBy located.lines rfl

/-- Every character boundary in the content of a line is a place. -/
theorem isPlace_of_located (located : document.Located offset earlier column rest ending later) :
    document.IsPlace offset :=
  ⟨Line.joined earlier ++ column, rest ++ (ending ++ Line.joined later), located.text_eq,
    located.offset_eq.symm, (Text.cut_of_linesBy located.lines rfl).2⟩

theorem betweenPlaces_of_isPart {index : Nat} {range : ByteRange}
    (isLine : index < document.lineCount) (part : range.IsPart (document.line index)) :
    document.BetweenPlaces
      ⟨document.lineStart index + range.start, document.lineStart index + range.stop⟩ := by
  rcases Line.exists_split isLine with ⟨earlier, ⟨content, ending⟩, later, lines, rfl⟩
  rcases part with ⟨before, middle, behind, content', rfl⟩
  rw [line_of_lines lines] at content'
  obtain rfl : content = before ++ middle ++ behind := content'
  have startLines : document.lines =
      earlier ++ ⟨before ++ (middle ++ behind), ending⟩ :: later := by
    rw [lines, List.append_assoc before]
  rw [lineStart_of_lines lines]
  constructor
  · exact isPlace_of_located ⟨startLines, (Text.byteLen_append ..).symm⟩
  · exact isPlace_of_located ⟨lines, (Text.byteLen_append ..).symm⟩

theorem Located.isLine (located : document.Located offset earlier column rest ending later) :
    earlier.length < document.lineCount := by
  rw [lineCount_of_lines located.lines]
  omega

theorem Located.clamp_eq (located : document.Located offset earlier column rest ending later) :
    document.clamp offset = offset := by
  rw [clamp, located.text_eq, located.offset_eq, Text.clamp_cut]

theorem Located.lineStart_eq (located : document.Located offset earlier column rest ending later) :
    document.lineStart earlier.length = (Line.joined earlier).byteLen :=
  lineStart_of_lines located.lines

theorem Located.line_eq (located : document.Located offset earlier column rest ending later) :
    document.line earlier.length = column ++ rest :=
  line_of_lines located.lines

theorem Located.lineOfOffset_eq
    (located : document.Located offset earlier column rest ending later) :
    document.lineOfOffset offset = earlier.length := by
  have areLines := areLines_of_lines located.lines
  have inside : later ≠ [] → column.byteLen < (Line.mk (column ++ rest) ending).byteLen := by
    intro follows
    have positive : 0 < ending.byteLen :=
      Text.byteLen_pos (areLines.ending follows).ne_nil
    simp only [Line.byteLen, Text.byteLen_append]
    omega
  have held := Text.lineHolding_append earlier ⟨column ++ rest, ending⟩ later column.byteLen inside
  rw [lineOfOffset, located.clamp_eq, located.lines, ← held, located.offset_eq]
  simp

theorem Located.slice_eq (located : document.Located offset earlier column rest ending later) :
    document.slice ⟨document.lineStart earlier.length, offset⟩ = column := by
  rw [slice, located.lineStart_eq, located.text_eq, located.offset_eq]
  exact Text.slice_cut _ _ _

end Located

/-! ## Edits -/

/-- Replacing between two cuts keeps what lies outside them. -/
theorem replace_cut (before removed behind new : Text) :
    Document.replace ⟨before ++ removed ++ behind⟩
      ⟨before.byteLen, (before ++ removed).byteLen⟩ new = ⟨before ++ new ++ behind⟩ := by
  have ordered : max before.byteLen (before ++ removed).byteLen = (before ++ removed).byteLen := by
    simp
  rw [replace, ordered, Text.dropBytes_cut, List.append_assoc before, Text.takeBytes_cut]

section Insertion

variable {offset : Nat} {earlier later : List Line} {column rest ending : Text}

/-- What is inserted at a place and has no break in it becomes a part of the line. -/
theorem Located.lines_replace (located : document.Located offset earlier column rest ending later)
    {new : Text} (plain : ∀ c ∈ new, Unicode.isLineBreak c = false) :
    (document.replace ⟨offset, offset⟩ new).lines =
      earlier ++ ⟨column ++ (new ++ rest), ending⟩ :: later := by
  rcases document with ⟨text⟩
  have behindLines := Text.linesBy_behind located.lines rfl
  rcases Text.cut_of_linesBy located.lines rfl with ⟨beforeLines, whole⟩
  have replaced := replace_cut (Line.joined earlier ++ column) []
    (rest ++ (ending ++ Line.joined later)) new
  rw [List.append_nil, ← located.text_eq, ← located.offset_eq, List.append_assoc _ new] at replaced
  rw [replaced]
  have newLines : Text.linesBy Unicode.isLineBreak new = [] ++ [⟨new, []⟩] :=
    Text.linesBy_of_plain rfl plain
  have newWhole : ¬Text.SplitsBreak new (rest ++ (ending ++ Line.joined later)) := by
    rintro ⟨isReturn, _⟩
    exact absurd (plain '\r' (List.mem_of_getLast? isReturn)) (by decide)
  apply Text.linesBy_append _ beforeLines (Text.linesBy_append newWhole newLines behindLines)
  cases new with
  | nil => exact whole
  | cons c others =>
      rintro ⟨_, isFeed⟩
      obtain rfl : c = '\n' := Option.some.inj isFeed
      exact absurd (plain '\n' List.mem_cons_self) (by decide)

theorem Located.replace_in_front
    (located : document.Located offset earlier column rest ending later) {new : Text}
    (plain : ∀ c ∈ new, Unicode.isLineBreak c = false) :
    (document.replace ⟨offset, offset⟩ new).Located offset earlier column (new ++ rest) ending
      later :=
  ⟨located.lines_replace plain, located.offset_eq⟩

theorem Located.replace_behind
    (located : document.Located offset earlier column rest ending later) {new : Text}
    (plain : ∀ c ∈ new, Unicode.isLineBreak c = false) :
    (document.replace ⟨offset, offset⟩ new).Located (offset + new.byteLen) earlier (column ++ new)
      rest ending later := by
  refine ⟨?_, ?_⟩
  · rw [located.lines_replace plain, List.append_assoc]
  · rw [located.offset_eq, ← List.append_assoc, Text.byteLen_append _ new]

/-- Lines in front of another line and behind it are the same in both documents. -/
theorem line_eq_of_lines {other : Document} {line otherLine : Line}
    (lines : document.lines = earlier ++ line :: later)
    (otherLines : other.lines = earlier ++ otherLine :: later) {index : Nat}
    (isOther : index ≠ earlier.length) : other.line index = document.line index := by
  rw [Document.line, Document.line, lines, otherLines]
  rcases Nat.lt_or_gt_of_ne isOther with above | below
  · rw [List.getElem?_append_left above, List.getElem?_append_left above]
  · obtain ⟨distance, rfl⟩ := Nat.exists_eq_add_of_lt below
    simp [List.getElem?_append, Nat.add_assoc]

end Insertion

end Document

end BatchLens
