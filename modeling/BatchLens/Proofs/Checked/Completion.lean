import Mathlib.Data.List.Basic
import Mathlib.Data.List.Induction
import BatchLens.Proofs.Batch.Ranges
import BatchLens.Proofs.Checked.Document

/-!
# Completion without faults

What is completed is decided by the parts of the line around the caret: the word that touches it, or
else the character in front of it, and the token before that. They are found by offsets into the
line, and the line is cut at these offsets. The caret itself is a boundary of the line, even if it
stands inside its break (`exists_cut_caret`), the other offsets come from characters of the line,
and so all these parts lie inside it.
-/

namespace BatchLens

namespace Text

/-- The characters of a text with their offsets, the first of which is given. -/
def charIndices (offset : Nat) : Text → List (Nat × Char)
  | [] => []
  | c :: rest => (offset, c) :: charIndices (offset + c.utf8Size) rest

theorem charIndices_append (offset : Nat) (left right : Text) :
    charIndices offset (left ++ right) =
      charIndices offset left ++ charIndices (offset + left.byteLen) right := by
  induction left generalizing offset with
  | nil => simp [charIndices]
  | cons c rest ih => simp [charIndices, ih, Nat.add_assoc]

/-- The run of such characters at the end of a text begins where the rest of it ends. -/
theorem getD_takeWhile_charIndices (test : Char → Bool) (text : Text) :
    (((charIndices 0 text).reverse.takeWhile fun entry => test entry.2).getLast?.map Prod.fst).getD
        text.byteLen =
      (dropEndWhile test text).byteLen := by
  induction text using List.reverseRecOn with
  | nil => rfl
  | append_singleton text last ih =>
      have indices : (charIndices 0 (text ++ [last])).reverse =
          (byteLen text, last) :: (charIndices 0 text).reverse := by
        simp [charIndices_append, charIndices]
      rw [indices]
      cases passes : test last with
      | true =>
          have shorter : dropEndWhile test (text ++ [last]) = dropEndWhile test text := by
            simp [dropEndWhile, passes]
          simp only [List.takeWhile_cons, passes, if_true, List.getLast?_cons, Option.map_some,
            Option.getD_some, shorter, ← ih]
          cases ((charIndices 0 text).reverse.takeWhile fun entry => test entry.2).getLast? <;> rfl
      | false => simp [dropEndWhile, passes]

/-- The run of such characters at the start of a text ends at the first other one. -/
theorem getD_find?_charIndices (test : Char → Bool) (offset : Nat) (text : Text) :
    (((charIndices offset text).find? fun entry => !test entry.2).map Prod.fst).getD
        (offset + text.byteLen) =
      offset + byteLen (text.takeWhile test) := by
  induction text generalizing offset with
  | nil => rfl
  | cons c rest ih =>
      cases passes : test c with
      | true => simpa [charIndices, passes, Nat.add_assoc] using ih (offset + c.utf8Size)
      | false => simp [charIndices, passes]

end Text

namespace Checked

/-! ## Around the caret -/

/-- The bytes of a line that the word at a column takes. -/
def wordRange (line : Text) (column : Nat) : Checked ByteRange := do
  let before ← front line column
  let run := (Text.charIndices 0 before).reverse.takeWhile fun entry =>
    Completion.isNameChar entry.2
  let behind ← back line column
  let other? := (Text.charIndices 0 behind).find? fun entry => !Completion.isNameChar entry.2
  .ok ⟨(run.getLast?.map Prod.fst).getD column,
    (other?.map fun entry => column + entry.1).getD line.byteLen⟩

/-- The bytes of the word or, if there is none, those of the character before the column. -/
def underCaret (line : Text) (column : Nat) (word : ByteRange) : Checked ByteRange :=
  if word.start < word.stop then .ok word
  else do
    let before ← front line column
    .ok (((Text.charIndices 0 before).getLast?.map fun entry =>
      ⟨entry.1, entry.1 + entry.2.utf8Size⟩).getD ⟨column, column⟩)

/-- Whether there are only letters and white space in a range of a line. -/
def isBare (line : Text) (range : ByteRange) : Checked Bool := do
  let under ← part line range
  .ok (under.all fun c => Unicode.isAlphabetic c || Unicode.isWhiteSpace c)

/-- The text that touches a word from the front or, if there is none, the last token before it. -/
def precedingToken (line : Text) (wordStart : Nat) : Checked (Option Text) := do
  let isSolid (c : Char) : Bool := !Unicode.isWhiteSpace c
  let head ← front line wordStart
  let attached ← back head (Text.dropEndWhile isSolid head).byteLen
  if !attached.isEmpty then .ok (some attached)
  else
    let before := Text.dropEndWhile Unicode.isWhiteSpace head
    if before.isEmpty then .ok none
    else do
      let token ← back before (Text.dropEndWhile isSolid before).byteLen
      .ok (some token)

/-- The bytes of the name inside a span. -/
def nameRange (span : Span) (line : Text) : Checked ByteRange := do
  let text := span.text line
  let start := span.start + (if text.head? == some '%' then 1 else 0)
  let stop ← difference span.stop
    (if text.byteLen > 1 && text.getLast? == some '%' then 1 else 0)
  .ok ⟨start, max stop start⟩

theorem back_dropEndWhile (test : Char → Bool) (text : Text) :
    back text (Text.dropEndWhile test text).byteLen = .ok (Text.takeEndWhile test text) := by
  have cut := back_cut (Text.dropEndWhile test text) (Text.takeEndWhile test text)
  rwa [Text.dropEndWhile_append_takeEndWhile] at cut

section Caret

variable (before behind : Text)

open Completion

theorem wordRange_eq :
    wordRange (before ++ behind) before.byteLen = .ok (CaretLine.mk before behind).wordRange := by
  have start := Text.getD_takeWhile_charIndices isNameChar before
  have stop := Text.getD_find?_charIndices isNameChar 0 behind
  have stopEq : ((((Text.charIndices 0 behind).find? fun entry => !isNameChar entry.2).map
      fun entry => before.byteLen + entry.1).getD (Text.byteLen (before ++ behind))) =
      before.byteLen + Text.byteLen (behind.takeWhile isNameChar) := by
    cases found : (Text.charIndices 0 behind).find? fun entry => !isNameChar entry.2 with
    | none => simpa [found] using stop
    | some other => simpa [found] using stop
  have whole := congrArg Text.byteLen (Text.dropEndWhile_append_takeEndWhile isNameChar before)
  rw [Text.byteLen_append] at whole
  have stopToo : before.byteLen + Text.byteLen (behind.takeWhile isNameChar) =
      (CaretLine.mk before behind).head.byteLen + (CaretLine.mk before behind).word.byteLen := by
    simp only [CaretLine.head, CaretLine.word, Text.byteLen_append]
    omega
  simp only [wordRange, front_cut, back_cut, ok_bind, start, stopEq, stopToo]
  rfl

theorem exists_lastChar :
    ∃ stem last, before = stem ++ last ∧ before.getLast?.toList = last ∧
      (((Text.charIndices 0 before).getLast?.map fun entry =>
        (⟨entry.1, entry.1 + entry.2.utf8Size⟩ : ByteRange)).getD
          ⟨before.byteLen, before.byteLen⟩) = ⟨stem.byteLen, (stem ++ last).byteLen⟩ := by
  rcases List.eq_nil_or_concat' before with rfl | ⟨stem, c, rfl⟩
  · exact ⟨[], [], rfl, rfl, rfl⟩
  · exact ⟨stem, [c], rfl, by simp, by simp [Text.charIndices_append, Text.charIndices]⟩

theorem exists_underCaret :
    ∃ range, underCaret (before ++ behind) before.byteLen (CaretLine.mk before behind).wordRange =
        .ok range ∧
      range.IsPart (before ++ behind) ∧
      part (before ++ behind) range = .ok (CaretLine.mk before behind).underCaret := by
  by_cases noWord : (CaretLine.mk before behind).word = []
  · rcases exists_lastChar before with ⟨stem, last, split, lastEq, range⟩
    have nothing : ¬(CaretLine.mk before behind).wordRange.start <
        (CaretLine.mk before behind).wordRange.stop := by
      simp [CaretLine.wordRange, noWord]
    refine ⟨⟨stem.byteLen, (stem ++ last).byteLen⟩, ?_,
      ⟨stem, last, behind, by rw [split], rfl⟩, ?_⟩
    · simp only [underCaret, if_neg nothing, front_cut, ok_bind, range]
    · have cut := part_cut stem last behind
      rw [← split] at cut
      rw [← split, cut, CaretLine.underCaret, noWord, lastEq]
      rfl
  · have something : (CaretLine.mk before behind).wordRange.start <
        (CaretLine.mk before behind).wordRange.stop := by
      have positive := Text.byteLen_pos noWord
      simp only [CaretLine.wordRange]
      omega
    have cut := part_cut (CaretLine.mk before behind).head (CaretLine.mk before behind).word
      (behind.dropWhile isNameChar)
    rw [← CaretLine.line_eq ⟨before, behind⟩, Text.byteLen_append] at cut
    have isWord : (CaretLine.mk before behind).underCaret = (CaretLine.mk before behind).word := by
      simp [CaretLine.underCaret, noWord]
    refine ⟨_, ?_, CaretLine.isPart_wordRange ⟨before, behind⟩, ?_⟩
    · rw [underCaret, if_pos something]
    · rw [isWord]
      exact cut

theorem precedingToken_eq :
    precedingToken (before ++ behind) (CaretLine.mk before behind).wordRange.start =
      .ok (CaretLine.mk before behind).precedingToken? := by
  have head : (CaretLine.mk before behind).head ++
      (Text.takeEndWhile isNameChar before ++ behind) = before ++ behind := by
    rw [CaretLine.head, ← List.append_assoc, Text.dropEndWhile_append_takeEndWhile]
  have cut := front_cut (CaretLine.mk before behind).head
    (Text.takeEndWhile isNameChar before ++ behind)
  rw [head] at cut
  simp only [precedingToken, CaretLine.wordRange, cut, ok_bind, back_dropEndWhile,
    CaretLine.precedingToken?]
  split
  next => rfl
  next =>
    split
    next => rfl
    next => rfl

end Caret

theorem nameRange_eq {span : Span} {line : Text} (isSpan : span ∈ classify line) :
    nameRange span line = .ok (Completion.nameRange span line) := by
  rcases exists_covers_of_mem_classify isSpan with ⟨before, middle, behind, covers⟩
  have stop : (if (span.text line).byteLen > 1 && (span.text line).getLast? == some '%' then 1
      else 0) ≤ span.stop := by
    rw [covers.text_under, covers.stop_eq, Text.byteLen_append]
    split
    next marked =>
      rw [Bool.and_eq_true, decide_eq_true_eq] at marked
      omega
    next => exact Nat.zero_le _
  simp only [nameRange, difference_of_le stop, ok_bind]
  rfl

/-! ## Variables -/

/-- The variables that a document refers to, without the reference that covers `current`. -/
def documentVariables (document : Document) (current : ByteRange) :
    Checked (List (Text × Text)) := do
  let found ← (List.range document.lineCount).mapM fun index => do
    let content ← line document index
    let start ← lineStart document index
    .ok (Completion.lineVariables current index start content)
  .ok found.flatten

/-- The variables that can be inserted in place of the one that covers `current`. -/
def variableItems (document : Document) (environment : Environment)
    (settings : CompletionSettings) (current : ByteRange) : Checked (List CompletionItem) := do
  let known := if settings.environmentVariables then environment.bindings else []
  let written ← (if settings.documentVariables then documentVariables document current
    else .ok [])
  .ok ((Completion.firstOfEach [] (known ++ written)).map fun (name, description) =>
    Completion.variableItem name description)

/-- The variables of the lines behind some others are those of the lines with the numbers that
follow. -/
theorem linesVariables_eq_flatMap {document : Document} (current : ByteRange)
    {earlier later : List Line} (lines : document.lines = earlier ++ later) :
    Completion.linesVariables current earlier.length (Line.totalLen earlier) later =
      (List.range' earlier.length later.length).flatMap fun index =>
        Completion.lineVariables current index (document.lineStart index)
          (document.line index) := by
  induction later generalizing earlier with
  | nil => rfl
  | cons line others ih =>
      have nextLines : document.lines = (earlier ++ [line]) ++ others := by simp [lines]
      have next := ih nextLines
      have nextLen : Line.totalLen (earlier ++ [line]) = Line.totalLen earlier + line.byteLen := by
        simp [Line.byteLen]
      rw [List.length_append, List.length_singleton, nextLen] at next
      rw [Completion.linesVariables, next, List.length_cons, List.range'_succ, List.flatMap_cons,
        Document.line_of_lines lines, Document.lineStart_of_lines lines,
        Line.totalLen_eq_byteLen_joined]

theorem documentVariables_eq (document : Document) (current : ByteRange) :
    documentVariables document current =
      .ok (Completion.linesVariables current 0 0 document.lines) := by
  let onLine (index : Nat) : List (Text × Text) :=
    Completion.lineVariables current index (document.lineStart index) (document.line index)
  have all := linesVariables_eq_flatMap current (List.nil_append document.lines).symm
  have listed :
      (List.range document.lineCount).mapM (fun index => (pure (onLine index) : Checked _)) =
        pure ((List.range document.lineCount).map onLine) :=
    List.mapM_pure
  simp only [documentVariables, line_eq, lineStart_eq, ok_bind]
  rw [List.length_nil, Line.totalLen, ← List.range_eq_range', List.flatMap_def] at all
  rw [all]
  exact (congrArg (· >>= fun found => .ok found.flatten) listed)

theorem variableItems_eq (document : Document) (environment : Environment)
    (settings : CompletionSettings) (current : ByteRange) :
    variableItems document environment settings current =
      .ok (Completion.variableItems document environment settings current) := by
  rw [variableItems, Completion.variableItems]
  cases settings.documentVariables with
  | true => simp only [if_true, documentVariables_eq, ok_bind]
  | false => rfl

/-! ## Completion -/

/-- What can be inserted at a caret of a document. -/
def complete (document : Document) (environment : Environment) (settings : CompletionSettings)
    (caret : Nat) : Checked (Option CompletionSet) := do
  let caret ← clamp document caret
  if caret = 0 then .ok none
  else do
    let index ← lineOfOffset document caret
    let start ← lineStart document index
    let line ← line document index
    let column := min (caret - start) line.byteLen
    let spans := classify line
    if Completion.isInCommentOrString spans column then .ok none
    else do
      let word ← wordRange line column
      let under ← underCaret line column word
      let token? ← precedingToken line word.start
      if token?.any Completion.isSuppressedBehind then .ok none
      else
        match spans.find? fun span => span.category == .identifier && span.containsCaret column with
        | some span => do
            let name ← nameRange span line
            let items ← variableItems document environment settings
              ⟨start + span.start, start + span.stop⟩
            .ok (Completion.setOf? start name items)
        | none => do
            let isOnBareWord ← (if settings.keywords then isBare line under else .ok false)
            .ok (if isOnBareWord then
              Completion.setOf? start word (Keyword.table.map Completion.keywordItem)
            else none)

/-- The caret cuts the line that holds it. One that stands inside the break of the line is moved to
the end of what the line says. -/
theorem exists_cut_caret (document : Document) (offset : Nat) :
    ∃ before behind,
      document.line (document.lineOfOffset (document.clamp offset)) = before ++ behind ∧
        min (document.clamp offset -
            document.lineStart (document.lineOfOffset (document.clamp offset)))
          (Text.byteLen (before ++ behind)) = before.byteLen := by
  rcases document.exists_held offset with ⟨earlier, head, tail, line, later, held⟩
  have column : document.clamp offset - document.lineStart earlier.length = head.byteLen := by
    rw [held.lineStart_eq, held.offset_eq, Text.byteLen_append]
    omega
  rw [held.lineOfOffset_eq, Document.line_of_lines held.lines, column]
  rcases held.head_cases with ⟨rest, content⟩ | ⟨_, pastEnd, _⟩
  · exact ⟨head, rest, content, by simp⟩
  · exact ⟨line.content, [], by simp, by simp [pastEnd]⟩

theorem complete_eq (document : Document) (environment : Environment)
    (settings : CompletionSettings) (caret : Nat) :
    complete document environment settings caret =
      .ok (document.complete? environment settings caret) := by
  rcases exists_cut_caret document caret with ⟨before, behind, line, column⟩
  rcases exists_underCaret before behind with ⟨range, under, -, text⟩
  have cut := Completion.CaretLine.cut_append before behind
  simp only [complete, clamp_eq, lineOfOffset_eq, lineStart_eq, line_eq, ok_bind, line, column,
    wordRange_eq, under, precedingToken_eq, variableItems_eq, Document.complete?, cut]
  split
  next => rfl
  next =>
    split
    next => rfl
    next =>
      split
      next => rfl
      next =>
        cases found : (classify (before ++ behind)).find? fun span =>
            span.category == .identifier && span.containsCaret before.byteLen with
        | some span =>
            simp only [nameRange_eq (List.mem_of_find?_eq_some found), ok_bind]
        | none =>
            cases settings.keywords with
            | false => rfl
            | true =>
                simp only [if_true, isBare, text, ok_bind, Bool.true_and]
                rfl

end Checked

end BatchLens
