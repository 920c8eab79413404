import Mathlib.Data.List.Basic
import BatchLens.Proofs.Batch.Precedence
import BatchLens.Proofs.Batch.Ranges

/-!
# The engines on one line

What the engines say about an offset they say about a column of the line that holds it. For hover
texts and closing pairs this line could be the whole document: the answer is the one of a document
of that single line, moved to where the line starts (`hover?_located`, `insertion?_located`). A
completion also looks at the variables of the other lines (`complete?_located`). For these the
lines could as well be numbered and not be joined to a text at all, because no reference on another
line can be taken for the one at the caret (`linesVariables_lines`).
-/

namespace BatchLens

/-- A range of a line in the document, when the line starts at `start`. -/
def ByteRange.shift (start : Nat) (range : ByteRange) : ByteRange :=
  ⟨start + range.start, start + range.stop⟩

/-- A hover text about a line in the document. -/
def Hover.shift (start : Nat) (hover : Hover) : Hover :=
  ⟨hover.range.shift start, hover.contents⟩

/-- A completion set of a line in the document. -/
def CompletionSet.shift (start : Nat) (set : CompletionSet) : CompletionSet :=
  ⟨set.replaced.shift start, set.items⟩

namespace Document

variable {document : Document} {environment : Environment} {offset : Nat}
  {earlier later : List Line} {column rest ending : Text}

theorem Located.column_eq (located : document.Located offset earlier column rest ending later) :
    offset - document.lineStart earlier.length = column.byteLen := by
  rw [located.lineStart_eq, located.offset_eq, Text.byteLen_append]
  omega

/-- The same place in a document that has no other line. -/
theorem Located.alone (located : document.Located offset earlier column rest ending later) :
    Located ⟨column ++ rest⟩ column.byteLen [] column rest [] [] := by
  refine ⟨?_, by simp⟩
  have isLine : ⟨column ++ rest, ending⟩ ∈ earlier ++ ⟨column ++ rest, ending⟩ :: later := by simp
  have plain := (areLines_of_lines located.lines).plain isLine
  exact Text.linesBy_of_plain rfl plain

/-! ## Hover texts and closing pairs -/

theorem hover?_located {settings : HoverSettings}
    (located : document.Located offset earlier column rest ending later) :
    document.hover? environment settings offset =
      (Document.hover? ⟨column ++ rest⟩ environment settings column.byteLen).map
        (Hover.shift (document.lineStart earlier.length)) := by
  have alone := located.alone
  simp only [hover?, hoverAmong?, located.clamp_eq, located.lineOfOffset_eq, located.line_eq,
    located.column_eq, alone.clamp_eq, alone.lineOfOffset_eq, alone.line_eq, alone.lineStart_eq]
  simp only [Option.bind_eq_bind, Option.map_or, Option.map_bind, Function.comp_def,
    Option.map_some, Hover.shift, ByteRange.shift]
  simp

/-- In a document of one line a hover text is about a part of the line. -/
theorem Located.isPart_hover? {settings : HoverSettings} {hover : Hover}
    (located : document.Located offset earlier column rest ending later)
    (answered : Document.hover? ⟨column ++ rest⟩ environment settings column.byteLen = some hover) :
    hover.range.IsPart (column ++ rest) := by
  have alone := located.alone
  rcases hover?_range answered with ⟨index, span, isLine, isSpan, range⟩
  rw [lineCount_of_lines alone.lines] at isLine
  simp only [List.length_nil, Nat.zero_add, Nat.lt_one_iff] at isLine
  subst isLine
  have line := alone.line_eq
  have lineStart := alone.lineStart_eq
  simp only [List.length_nil, Line.joined_nil, Text.byteLen_nil] at line lineStart
  rw [line] at isSpan
  rw [range, lineStart, Nat.zero_add, Nat.zero_add]
  exact isPart_of_mem_classify isSpan

theorem insertion?_located {typed : Char}
    (located : document.Located offset earlier column rest ending later) :
    Pairing.insertion? document offset typed =
      (Pairing.insertion? ⟨column ++ rest⟩ column.byteLen typed).map fun (place, close) =>
        (document.lineStart earlier.length + place, close) := by
  have alone := located.alone
  simp only [Pairing.insertion?, located.clamp_eq, located.lineOfOffset_eq, located.line_eq,
    located.column_eq, alone.clamp_eq, alone.lineOfOffset_eq, alone.line_eq, alone.column_eq]
  have sameOffset : offset = document.lineStart earlier.length + column.byteLen := by
    rw [located.lineStart_eq, located.offset_eq, Text.byteLen_append]
  simp only [Option.bind_eq_bind, Option.bind_none, Option.map_bind, Function.comp_def,
    apply_ite (Option.map _), Option.map_none, Option.map_some, ← sameOffset]

end Document

/-! ## The variables of other lines -/

theorem inside_of_mem_classify {text : Text} {span : Span} (isSpan : span ∈ classify text) :
    span.start < span.stop ∧ span.stop ≤ text.byteLen := by
  rcases mem_candidates_of_mem_classify isSpan with ⟨category, isCandidate⟩
  exact ⟨Classification.start_lt_stop_of_mem_candidates isCandidate,
    Classification.stop_le_of_mem_candidates isCandidate⟩

namespace Completion

/-- The variables that a line refers to, without the reference in a range of it. -/
def lineReferences (skipped : Option ByteRange) (number : Nat) (line : Text) :
    List (Text × Text) :=
  (classify line).filterMap fun span =>
    if span.category != .identifier || skipped == some span.range then none
    else
      (referenceName? (span.text line)).map fun name =>
        (name, "Referenced on line ".toList ++ Text.ofNat (number + 1))

/-- The variables that some lines refer to, the first of which has the given number. -/
def references (number : Nat) (contents : List Text) : List (Text × Text) :=
  (contents.zipIdx number).flatMap fun (line, number) => lineReferences none number line

theorem lineVariables_eq_lineReferences {current : ByteRange} {skipped : Option ByteRange}
    {number start : Nat} {line : Text}
    (same : ∀ span ∈ classify line, span.range.shift start = current ↔ skipped = some span.range) :
    lineVariables current number start line = lineReferences skipped number line := by
  apply List.filterMap_congr
  intro span isSpan
  have isCurrent : (start + span.start == current.start && start + span.stop == current.stop) =
      (skipped == some span.range) := by
    rw [Bool.eq_iff_iff, Bool.and_eq_true, beq_iff_eq, beq_iff_eq, beq_iff_eq,
      ← same span isSpan, ByteRange.shift, ByteRange.mk.injEq]
    rfl
  rw [isCurrent]

/-- On lines that lie apart from a range nothing is left out. -/
theorem linesVariables_of_apart {current : ByteRange} (nonempty : current.start < current.stop)
    {number start : Nat} {lines : List Line}
    (apart : start + Line.totalLen lines ≤ current.start ∨ current.stop ≤ start) :
    linesVariables current number start lines = references number (lines.map Line.content) := by
  induction lines generalizing number start with
  | nil => rfl
  | cons line others ih =>
      simp only [Line.totalLen] at apart
      have different : ∀ span ∈ classify line.content,
          span.range.shift start = current ↔ none = some span.range := by
        intro span isSpan
        rcases inside_of_mem_classify isSpan with ⟨_, inside⟩
        simp only [reduceCtorEq, iff_false]
        rintro rfl
        simp only [ByteRange.shift, Span.range, Line.byteLen] at apart nonempty
        omega
      have apartToo : start + line.byteLen + Line.totalLen others ≤ current.start ∨
          current.stop ≤ start + line.byteLen := by
        omega
      rw [linesVariables, lineVariables_eq_lineReferences different, ih apartToo]
      simp [references]

theorem linesVariables_append (current : ByteRange) (number start : Nat)
    (first second : List Line) :
    linesVariables current number start (first ++ second) =
      linesVariables current number start first ++
        linesVariables current (number + first.length) (start + Line.totalLen first) second := by
  induction first generalizing number start with
  | nil => simp [linesVariables, Line.totalLen]
  | cons line others ih =>
      simp only [List.cons_append, linesVariables, ih, List.append_assoc, List.length_cons,
        Line.totalLen]
      congr 3 <;> omega

/-- The variables that a document refers to outside a range of one of its lines. Where the lines
start does not matter. -/
theorem linesVariables_lines {range : ByteRange} (earlier : List Line) (line : Line)
    (later : List Line) (nonempty : range.start < range.stop)
    (inside : range.stop ≤ line.content.byteLen) :
    linesVariables (range.shift (Line.totalLen earlier)) 0 0 (earlier ++ line :: later) =
      references 0 (earlier.map Line.content) ++
        (lineReferences (some range) earlier.length line.content ++
          references (earlier.length + 1) (later.map Line.content)) := by
  have someBytes : (range.shift (Line.totalLen earlier)).start <
      (range.shift (Line.totalLen earlier)).stop := by
    simp only [ByteRange.shift]
    omega
  have onLine : ∀ span ∈ classify line.content,
      span.range.shift (Line.totalLen earlier) = range.shift (Line.totalLen earlier) ↔
        some range = some span.range := by
    intro span _
    rcases range with ⟨start, stop⟩
    simp only [ByteRange.shift, Span.range, ByteRange.mk.injEq, Option.some.injEq]
    omega
  rw [linesVariables_append, linesVariables]
  simp only [Nat.zero_add]
  -- The lines behind start after the range, and those in front end before it.
  rw [linesVariables_of_apart someBytes, lineVariables_eq_lineReferences onLine,
    linesVariables_of_apart someBytes]
  · right
    simp only [ByteRange.shift, Line.byteLen]
    omega
  · left
    simp [ByteRange.shift]

/-- The variables that can be inserted in place of a span of a line, with what the lines around it
say. -/
def variablesBeside (environment : Environment) (settings : CompletionSettings)
    (earlier : List Text) (line : Text) (later : List Text) (span : Span) : List CompletionItem :=
  let known := if settings.environmentVariables then environment.bindings else []
  let written :=
    if settings.documentVariables then
      references 0 earlier ++ (lineReferences (some span.range) earlier.length line ++
        references (earlier.length + 1) later)
    else []
  (firstOfEach [] (known ++ written)).map fun (name, description) => variableItem name description

/-- What can be inserted at a column of a line, when `inPlaceOf` gives the variables that can be
inserted in place of a span. -/
def onLine? (settings : CompletionSettings) (inPlaceOf : Span → List CompletionItem) (line : Text)
    (column : Nat) : Option CompletionSet :=
  let spans := classify line
  let cut := CaretLine.cut line column
  if isInCommentOrString spans column then none
  else if cut.precedingToken?.any isSuppressedBehind then none
  else
    match spans.find? fun span => span.category == .identifier && span.containsCaret column with
    | some span => setOf? 0 (nameRange span line) (inPlaceOf span)
    | none =>
        if settings.keywords && cut.isOnBareWord then
          setOf? 0 cut.wordRange (Keyword.table.map keywordItem)
        else none

theorem setOf?_eq_map_shift (start : Nat) (range : ByteRange) (items : List CompletionItem) :
    setOf? start range items = (setOf? 0 range items).map (CompletionSet.shift start) := by
  rw [setOf?, setOf?]
  split
  next => rfl
  next => simp [CompletionSet.shift, ByteRange.shift]

theorem isPart_of_onLine? {settings : CompletionSettings} {inPlaceOf : Span → List CompletionItem}
    {line : Text} {column : Nat} {set : CompletionSet}
    (answered : onLine? settings inPlaceOf line column = some set) :
    set.replaced.IsPart line := by
  have replaced {range : ByteRange} {items : List CompletionItem} (part : range.IsPart line)
      (offered : setOf? 0 range items = some set) : set.replaced.IsPart line := by
    rw [Document.replaced_of_setOf? offered, Nat.zero_add, Nat.zero_add]
    exact part
  simp only [onLine?, Option.ite_none_left_eq_some] at answered
  rcases answered with ⟨_, _, answered⟩
  split at answered
  next span found =>
    rcases exists_covers_of_mem_classify (List.mem_of_find?_eq_some found) with
      ⟨before, middle, behind, covers⟩
    exact replaced (isPart_nameRange covers) answered
  next =>
    rw [Option.ite_none_right_eq_some] at answered
    exact replaced (isPart_wordRange line column) answered.2

end Completion

namespace Document

variable {document : Document} {environment : Environment} {settings : CompletionSettings}
  {offset : Nat} {earlier later : List Line} {column rest ending : Text}

theorem Located.variableItems_eq
    (located : document.Located offset earlier column rest ending later)
    (environment : Environment) (settings : CompletionSettings) {span : Span}
    (isSpan : span ∈ classify (column ++ rest)) :
    Completion.variableItems document environment settings
        (span.range.shift (document.lineStart earlier.length)) =
      Completion.variablesBeside environment settings (earlier.map Line.content) (column ++ rest)
        (later.map Line.content) span := by
  rcases inside_of_mem_classify isSpan with ⟨nonempty, inside⟩
  have written := Completion.linesVariables_lines earlier ⟨column ++ rest, ending⟩ later
    (show span.range.start < span.range.stop from nonempty) inside
  rw [located.lineStart_eq, ← Line.totalLen_eq_byteLen_joined, Completion.variableItems,
    located.lines, written, Completion.variablesBeside, List.length_map]

/-- A completion is one on the line that holds the caret, unless the caret is at the very start. -/
theorem complete?_located (located : document.Located offset earlier column rest ending later)
    (behindStart : offset ≠ 0) :
    document.complete? environment settings offset =
      (Completion.onLine? settings
        (Completion.variablesBeside environment settings (earlier.map Line.content)
          (column ++ rest) (later.map Line.content)) (column ++ rest) column.byteLen).map
        (CompletionSet.shift (document.lineStart earlier.length)) := by
  have inLine : min column.byteLen (Text.byteLen (column ++ rest)) = column.byteLen := by simp
  simp only [complete?, located.clamp_eq, located.lineOfOffset_eq, located.line_eq,
    located.column_eq, if_neg behindStart, inLine, Completion.onLine?]
  split
  next => rfl
  next =>
    split
    next => rfl
    next =>
      cases found : (classify (column ++ rest)).find? fun span =>
          span.category == .identifier && span.containsCaret column.byteLen with
      | some span =>
          have sameItems := located.variableItems_eq environment settings
            (List.mem_of_find?_eq_some found)
          rw [ByteRange.shift, Span.range] at sameItems
          dsimp only
          rw [sameItems, Completion.setOf?_eq_map_shift]
      | none =>
          dsimp only
          rw [Completion.setOf?_eq_map_shift, apply_ite (Option.map _), Option.map_none]

end Document

end BatchLens
