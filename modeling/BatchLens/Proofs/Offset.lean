import BatchLens.Proofs.Place

/-!
# Offsets and the lines that hold them

Not every offset is a place: it may lie inside a character, inside a break of two characters, or
behind the end. Still every offset belongs to exactly one line, which is the one that
`lineOfOffset` tells (`exists_held`, `Held.lineOfOffset_eq`), and lines follow one another in the
order of their offsets (`lineStart_add_le`, `Held.order`).
-/

namespace BatchLens

namespace Text

theorem clamp_mono (text : Text) {first second : Nat} (ordered : first ≤ second) :
    text.clamp first ≤ text.clamp second := by
  simp only [clamp]
  induction text generalizing first second with
  | nil => simp
  | cons c rest ih =>
      simp only [takeBytes]
      by_cases fits : c.utf8Size ≤ first
      · have fitsToo : c.utf8Size ≤ second := Nat.le_trans fits ordered
        have remaining : first - c.utf8Size ≤ second - c.utf8Size := by omega
        simpa [fits, fitsToo] using ih remaining
      · simp [fits]

theorem clamp_le (text : Text) (offset : Nat) : text.clamp offset ≤ offset :=
  byteLen_takeBytes_le offset text

end Text

namespace Line

/-- A cut of what lines spell lies in one of them, and not at its end unless it is the last. -/
theorem exists_holding {lines : List Line} (nonempty : lines ≠ []) {before behind : Text}
    (cut : joined lines = before ++ behind) :
    ∃ earlier line later head tail, lines = earlier ++ line :: later ∧
      line.spelling = head ++ tail ∧ before = joined earlier ++ head ∧
      (later ≠ [] → tail ≠ []) := by
  induction lines generalizing before with
  | nil => exact absurd rfl nonempty
  | cons line others ih =>
      cases others with
      | nil =>
          refine ⟨[], line, [], before, behind, rfl, ?_, rfl, by simp⟩
          simpa [spelling] using cut
      | cons next more =>
          have split : line.spelling ++ joined (next :: more) = before ++ behind := by
            simpa [spelling] using cut
          -- A cut at the end of the line lies at the start of the next one.
          have goOn (middle : Text) (beforeEq : before = line.spelling ++ middle)
              (rest : joined (next :: more) = middle ++ behind) :
              ∃ earlier held later head tail, line :: next :: more = earlier ++ held :: later ∧
                held.spelling = head ++ tail ∧ before = joined earlier ++ head ∧
                (later ≠ [] → tail ≠ []) := by
            rcases ih (by simp) rest with
              ⟨earlier, held, later, head, tail, lines, spells, middleEq, inside⟩
            refine ⟨line :: earlier, held, later, head, tail, ?_, spells, ?_, inside⟩
            · rw [lines, List.cons_append]
            · simp [beforeEq, middleEq, spelling]
          rcases List.append_eq_append_iff.mp split with
            ⟨middle, beforeEq, rest⟩ | ⟨tail, spells, behindEq⟩
          · exact goOn middle beforeEq rest
          · by_cases atEnd : tail = []
            · subst atEnd
              apply goOn []
              · simpa using spells.symm
              · simpa using behindEq.symm
            · exact ⟨[], line, next :: more, before, tail, rfl, spells, by simp, fun _ => atEnd⟩

end Line

namespace Document

variable {document : Document}

/-- An offset by the line that holds it: the lines in front, what the line spells on both sides of
the offset, and the lines behind. Only at the end of the last line nothing is left of it. -/
structure Held (document : Document) (offset : Nat) (earlier : List Line) (head tail : Text)
    (line : Line) (later : List Line) : Prop where
  lines : document.lines = earlier ++ line :: later
  spelling_eq : line.spelling = head ++ tail
  offset_eq : offset = (Line.joined earlier ++ head).byteLen
  inside : later ≠ [] → tail ≠ []

theorem joined_lines (document : Document) : Line.joined document.lines = document.text :=
  Text.joined_linesBy Unicode.isLineBreak document.text

@[simp]
theorem clamp_clamp (document : Document) (offset : Nat) :
    document.clamp (document.clamp offset) = document.clamp offset := by
  rcases Text.exists_cut_clamp document.text offset with ⟨before, behind, text, length⟩
  simp only [clamp]
  rw [← length, text, Text.clamp_cut]

@[simp]
theorem lineOfOffset_clamp (document : Document) (offset : Nat) :
    document.lineOfOffset (document.clamp offset) = document.lineOfOffset offset := by
  rw [lineOfOffset, lineOfOffset, clamp_clamp]

theorem exists_held (document : Document) (offset : Nat) :
    ∃ earlier head tail line later,
      document.Held (document.clamp offset) earlier head tail line later := by
  rcases Text.exists_cut_clamp document.text offset with ⟨before, behind, text, length⟩
  rw [← joined_lines document] at text
  rcases Line.exists_holding (Text.linesBy_ne_nil document.text) text with
    ⟨earlier, line, later, head, tail, lines, spells, beforeEq, inside⟩
  refine ⟨earlier, head, tail, line, later, lines, spells, ?_, inside⟩
  rw [clamp, ← length, beforeEq]

section Held

variable {offset : Nat} {earlier later : List Line} {head tail : Text} {line : Line}

theorem Held.text_eq (held : document.Held offset earlier head tail line later) :
    document.text = Line.joined earlier ++ head ++ (tail ++ Line.joined later) := by
  have spelled : line.content ++ (line.ending ++ Line.joined later) =
      head ++ (tail ++ Line.joined later) := by
    rw [← List.append_assoc, ← List.append_assoc, ← held.spelling_eq, Line.spelling]
  rw [← joined_lines document, held.lines]
  simp [spelled]

theorem Held.clamp_eq (held : document.Held offset earlier head tail line later) :
    document.clamp offset = offset := by
  rw [clamp, held.text_eq, held.offset_eq, Text.clamp_cut]

theorem Held.isLine (held : document.Held offset earlier head tail line later) :
    earlier.length < document.lineCount := by
  rw [lineCount_of_lines held.lines]
  omega

theorem Held.byteLen_eq (held : document.Held offset earlier head tail line later) :
    line.byteLen = head.byteLen + tail.byteLen := by
  have spelled := congrArg Text.byteLen held.spelling_eq
  simpa [Line.spelling, Line.byteLen] using spelled

theorem Held.lineOfOffset_eq (held : document.Held offset earlier head tail line later) :
    document.lineOfOffset offset = earlier.length := by
  have inside : later ≠ [] → head.byteLen < line.byteLen := by
    intro follows
    have positive := Text.byteLen_pos (held.inside follows)
    have := held.byteLen_eq
    omega
  have counted := Text.lineHolding_append earlier line later head.byteLen inside
  rw [lineOfOffset, held.clamp_eq, held.lines, held.offset_eq, ← counted]
  simp

theorem Held.lineStart_eq (held : document.Held offset earlier head tail line later) :
    document.lineStart earlier.length = (Line.joined earlier).byteLen :=
  lineStart_of_lines held.lines

theorem Held.slice_eq (held : document.Held offset earlier head tail line later) :
    document.slice ⟨document.lineStart earlier.length, offset⟩ = head := by
  rw [slice, held.lineStart_eq, held.text_eq, held.offset_eq]
  exact Text.slice_cut _ _ _

/-- An offset lies in the content of its line, or else between the two characters of its break. -/
theorem Held.head_cases (held : document.Held offset earlier head tail line later) :
    (∃ rest, line.content = head ++ rest) ∨
      (line.ending = ['\r', '\n'] ∧ head = line.content ++ ['\r'] ∧ tail = ['\n']) := by
  have areLines := areLines_of_lines held.lines
  have spells : line.content ++ line.ending = head ++ tail := held.spelling_eq
  rcases List.append_eq_append_iff.mp spells with ⟨more, headEq, endingEq⟩ | ⟨rest, content, _⟩
  · by_cases nothing : more = []
    · left
      exact ⟨[], by simp [headEq, nothing]⟩
    · right
      -- The offset lies in the break, which the last line does not have.
      have follows : later ≠ [] := by
        rintro rfl
        rcases areLines.exists_last with ⟨_, _, same⟩
        have last := (List.append_inj' same rfl).2
        simp only [List.cons.injEq, and_true] at last
        rw [last] at endingEq
        exact nothing (List.append_eq_nil_iff.mp endingEq.symm).1
      have left := held.inside follows
      rcases areLines.ending follows with pair | ⟨c, _, single⟩
      · rw [pair] at endingEq
        rcases List.cons_eq_append_iff.mp endingEq with ⟨noMore, _⟩ | ⟨others, moreEq, behind⟩
        · exact absurd noMore nothing
        · rcases List.cons_eq_append_iff.mp behind with ⟨noOthers, tailEq⟩ | ⟨_, _, noTail⟩
          · exact ⟨pair, by rw [headEq, moreEq, noOthers], tailEq⟩
          · exact absurd (List.append_eq_nil_iff.mp noTail.symm).2 left
      · rw [single] at endingEq
        rcases List.cons_eq_append_iff.mp endingEq with ⟨noMore, _⟩ | ⟨_, _, noTail⟩
        · exact absurd noMore nothing
        · exact absurd (List.append_eq_nil_iff.mp noTail.symm).2 left
  · exact .inl ⟨rest, content⟩

end Held

/-- Of two offsets the smaller one is held by an earlier line, or stands before less of the same
line. -/
theorem Held.order {first second : Nat} {earlier later earlier' later' : List Line}
    {head tail head' tail' : Text} {line line' : Line}
    (held : document.Held first earlier head tail line later)
    (held' : document.Held second earlier' head' tail' line' later') (ordered : first ≤ second) :
    earlier.length < earlier'.length ∨
      (earlier.length = earlier'.length ∧ ∃ between, head' = head ++ between) := by
  have sameLines := held.lines.symm.trans held'.lines
  rcases Nat.lt_trichotomy earlier.length earlier'.length with above | same | below
  · exact .inl above
  · right
    rcases List.append_inj sameLines same with ⟨rfl, rest⟩
    simp only [List.cons.injEq] at rest
    rcases rest with ⟨rfl, -⟩
    have spells := held.spelling_eq.symm.trans held'.spelling_eq
    have shorter : head.byteLen ≤ head'.byteLen := by
      rw [held.offset_eq, held'.offset_eq] at ordered
      simpa using ordered
    rcases Text.cut_of_byteLen_le spells shorter with ⟨between, isLonger, -⟩
    exact ⟨same, between, isLonger⟩
  · -- The whole of the second line would come before the first offset.
    exfalso
    rcases List.append_eq_append_iff.mp sameLines with ⟨more, longer, _⟩ | ⟨more, longer, rest⟩
    · rw [longer, List.length_append] at below
      omega
    · cases more with
      | nil =>
          rw [longer, List.append_nil] at below
          omega
      | cons next others =>
          simp only [List.cons_append, List.cons.injEq] at rest
          rcases rest with ⟨rfl, follows⟩
          have nonempty : later' ≠ [] := by simp [follows]
          have positive := Text.byteLen_pos (held'.inside nonempty)
          have length := held'.byteLen_eq
          simp only [Line.byteLen] at length
          rw [held.offset_eq, held'.offset_eq, longer] at ordered
          simp only [Line.joined_append, Line.joined_cons, Text.byteLen_append] at ordered
          omega

/-! ## Lines by their number, existing or not -/

theorem lineStart_of_le {index : Nat} (noLine : document.lineCount ≤ index) :
    document.lineStart index = document.length := by
  have all : document.lines.take index = document.lines := List.take_of_length_le noLine
  rw [lineStart, all, Line.totalLen_eq_byteLen_joined, joined_lines, length]

theorem line_of_le {index : Nat} (noLine : document.lineCount ≤ index) :
    document.line index = [] := by
  have none : document.lines[index]? = none := List.getElem?_eq_none noLine
  simp [line, none]

theorem lineStart_mono {first second : Nat} (ordered : first ≤ second) :
    document.lineStart first ≤ document.lineStart second := by
  rcases Nat.exists_eq_add_of_le ordered with ⟨more, rfl⟩
  simp [lineStart, List.take_add]

/-- A line ends before every later one starts. -/
theorem lineStart_add_le {first second : Nat} (above : first < second) :
    document.lineStart first + (document.line first).byteLen ≤ document.lineStart second := by
  have next := document.lineStart_mono (Nat.succ_le_of_lt above)
  by_cases isLine : first < document.lineCount
  · rcases Line.exists_split isLine with ⟨earlier, line, later, lines, rfl⟩
    rw [Nat.succ_eq_add_one, lineStart_succ_of_lines lines, Line.spelling] at next
    rw [lineStart_of_lines lines, line_of_lines lines]
    simp only [Text.byteLen_append] at next
    omega
  · have noLine := Nat.le_of_not_lt isLine
    have ordered := document.lineStart_mono (Nat.le_of_lt above)
    simpa [line_of_le noLine] using ordered

end Document

end BatchLens
