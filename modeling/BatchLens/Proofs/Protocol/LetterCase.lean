import BatchLens.Proofs.Pattern.LetterCase
import BatchLens.Proofs.Text.Lines
import BatchLens.Protocol.SemanticToken

/-!
# Batch text regards no case

No pattern of the grammar tells a capital letter of ASCII from the small one
(`ignoresCase_pattern`), and neither do the bytes and the units that a character takes or the breaks
between lines. So a text in lower case has the spans of the text itself, a document in lower case
the tokens of the document, and two texts or documents that differ only in the case of letters are
classified alike (`classify_ignoring_case`).
-/

namespace BatchLens

/-! ## Spans -/

namespace Grammar

theorem ignoresCase_word (letters : List Char) : (word letters).ignoresCase = true := by
  have sameLetter := Unicode.apply_toLower_of_capitals (f := Unicode.foldToAscii) (by decide)
  induction letters with
  | nil => rfl
  | cons c rest ih =>
      refine (Bool.and_eq_true _ _).mpr ⟨?_, ih⟩
      rw [Pattern.ignoresCase, List.all_eq_true]
      intro letter _
      rw [sameLetter, beq_self_eq_true]

open Pattern in
theorem ignoresCase_pattern (category : Category) : (pattern category).ignoresCase = true := by
  cases category with
  | keyword =>
      have names : (anyOf (Keyword.names.map word)).ignoresCase = true := by
        apply ignoresCase_anyOf
        intro pattern isName
        rcases List.mem_map.mp isName with ⟨name, _, rfl⟩
        exact ignoresCase_word name
      have parts : (pattern .keyword).ignoresCase =
          ((textStart <|> one isSpace).ignoresCase &&
            ((maybe (char '@')).ignoresCase && (anyOf (Keyword.names.map word)).ignoresCase) &&
              wordBoundary.ignoresCase) := rfl
      rw [parts, names]
      decide
  | _ => decide +kernel

end Grammar

namespace Classification

theorem candidates_asciiLower (text : Text) (category : Category) :
    candidates text.asciiLower category = candidates text category := by
  rw [candidates, candidates, Pattern.findAll_asciiLower (Grammar.ignoresCase_pattern category)]

theorem spansWith_asciiLower (comment : Option Span) (text : Text) :
    spansWith comment text.asciiLower = spansWith comment text := by
  have sameCandidates : candidates text.asciiLower = candidates text :=
    funext (candidates_asciiLower text)
  rw [spansWith, spansWith, sameCandidates]

end Classification

theorem classify_asciiLower (text : Text) : classify text.asciiLower = classify text := by
  have sameComment : Classification.comment? text.asciiLower = Classification.comment? text := by
    rw [Classification.comment?, Classification.comment?, Classification.candidates_asciiLower]
  simp only [classify, sameComment, Classification.spansWith_asciiLower]

/-! ## Cuts and lines -/

namespace Text

@[simp]
theorem byteLen_asciiLower (text : Text) : text.asciiLower.byteLen = text.byteLen := by
  induction text with
  | nil => rfl
  | cons c rest ih => rw [asciiLower_cons, byteLen, byteLen, ih, Unicode.utf8Size_toLower]

theorem takeBytes_asciiLower (budget : Nat) (text : Text) :
    takeBytes budget text.asciiLower = asciiLower (takeBytes budget text) := by
  induction text generalizing budget with
  | nil => rfl
  | cons c rest ih =>
      rw [asciiLower_cons, takeBytes, takeBytes, Unicode.utf8Size_toLower]
      split
      next => rw [ih, asciiLower_cons]
      next => rfl

theorem dropBytes_asciiLower (budget : Nat) (text : Text) :
    dropBytes budget text.asciiLower = asciiLower (dropBytes budget text) := by
  induction text generalizing budget with
  | nil => rfl
  | cons c rest ih =>
      rw [asciiLower_cons, dropBytes, dropBytes, Unicode.utf8Size_toLower]
      split
      next => exact ih _
      next => rfl

theorem isBoundary_asciiLower (text : Text) (offset : Nat) :
    isBoundary text.asciiLower offset = isBoundary text offset := by
  rw [isBoundary, isBoundary, clamp, clamp, takeBytes_asciiLower, byteLen_asciiLower]

theorem slice_asciiLower (text : Text) (start stop : Nat) :
    slice text.asciiLower start stop = asciiLower (slice text start stop) := by
  rw [slice, slice, takeBytes_asciiLower, dropBytes_asciiLower]

theorem slice?_asciiLower (text : Text) (range : ByteRange) :
    slice? text.asciiLower range = (slice? text range).map asciiLower := by
  rw [slice?, slice?, isBoundary_asciiLower, isBoundary_asciiLower, slice_asciiLower]
  split <;> rfl

end Text

theorem Span.text_asciiLower (span : Span) (source : Text) :
    span.text source.asciiLower = Text.asciiLower (span.text source) := by
  rw [Span.text, Span.text, Text.slice?_asciiLower]
  cases Text.slice? source span.range <;> rfl

/-- A line in lower case. -/
def Line.asciiLower (line : Line) : Line :=
  ⟨Text.asciiLower line.content, Text.asciiLower line.ending⟩

theorem Text.splitsBreak_asciiLower (c : Char) (rest : Text) :
    SplitsBreak [c.toLower] rest.asciiLower ↔ SplitsBreak [c] rest := by
  have sameReturn := Unicode.apply_toLower_of_capitals (f := (· == '\r')) (by decide)
  have sameFeed := Unicode.apply_toLower_of_capitals (f := (· == '\n')) (by decide)
  cases rest with
  | nil => simp [SplitsBreak]
  | cons d others =>
      have isReturn := Bool.eq_iff_iff.mp (sameReturn c)
      have isFeed := Bool.eq_iff_iff.mp (sameFeed d)
      simp only [beq_iff_eq] at isReturn isFeed
      simp [SplitsBreak, isReturn, isFeed]

theorem Text.lines_asciiLower (text : Text) :
    text.asciiLower.lines = text.lines.map Line.asciiLower := by
  have sameBreak := Unicode.apply_toLower_of_capitals (f := Unicode.isLineBreak) (by decide)
  rw [lines, lines]
  induction text using linesBy_induction Unicode.isLineBreak with
  | empty => rfl
  | pair rest ih => exact congrArg (_ :: ·) ih
  | atBreak c rest ends single ih =>
      rw [asciiLower_cons, linesBy_cons_of_isBreak (by rw [sameBreak, ends])
        (mt (splitsBreak_asciiLower c rest).mp single), ih]
      rfl
  | inLine c rest line others inside single restLines ih =>
      rw [asciiLower_cons, linesBy_cons_of_not_isBreak (by rw [sameBreak, inside])
        (mt (splitsBreak_asciiLower c rest).mp single) ih]
      rfl

/-! ## Tokens -/

theorem PositionEncoding.columnUnits_asciiLower (encoding : PositionEncoding) (text : Text) :
    encoding.columnUnits text.asciiLower = encoding.columnUnits text := by
  have sameUnits (c : Char) : encoding.units c.toLower = encoding.units c := by
    cases encoding <;> exact Unicode.apply_toLower_of_capitals (by decide) c
  simp only [columnUnits, Text.asciiLower, List.foldl_map, sameUnits]

namespace SemanticToken

theorem ofLine_asciiLower (encoding : PositionEncoding) (index : Nat) (line : Text) :
    ofLine encoding index line.asciiLower = ofLine encoding index line := by
  have samePlace : place encoding index line.asciiLower = place encoding index line := by
    funext span
    simp only [place, Text.takeBytes_asciiLower, Span.text_asciiLower,
      PositionEncoding.columnUnits_asciiLower]
  rw [ofLine, ofLine, classify_asciiLower, samePlace]

theorem ofLines_asciiLower (document : Document) (encoding : PositionEncoding)
    (start stop : Nat) :
    ofLines ⟨document.text.asciiLower⟩ encoding start stop =
      ofLines document encoding start stop := by
  have sameLines : Document.lines ⟨document.text.asciiLower⟩ =
      document.lines.map Line.asciiLower :=
    Text.lines_asciiLower document.text
  rw [ofLines, ofLines, sameLines, List.zipIdx_map, ← List.map_take, ← List.map_drop,
    List.flatMap_map]
  simp only [Prod.map, Line.asciiLower, ofLine_asciiLower, id_eq]

end SemanticToken

/-- Two texts that differ only in the case of ASCII letters have the same spans, and two documents
that differ only so have the same tokens in all ranges of lines and in all encodings. -/
theorem classify_ignoring_case :
    (∀ left right : Text, Text.sameIgnoringAsciiCase left right = true →
      classify left = classify right) ∧
    ∀ left right : Document, Text.sameIgnoringAsciiCase left.text right.text = true →
      ∀ encoding start stop,
        left.semanticTokens encoding start stop = right.semanticTokens encoding start stop := by
  refine ⟨?_, ?_⟩
  · intro left right same
    have sameLower : left.asciiLower = right.asciiLower := beq_iff_eq.mp same
    rw [← classify_asciiLower left, sameLower, classify_asciiLower]
  · intro left right same encoding start stop
    have sameLower : left.text.asciiLower = right.text.asciiLower := beq_iff_eq.mp same
    rw [Document.semanticTokens, Document.semanticTokens,
      ← SemanticToken.ofLines_asciiLower left, sameLower, SemanticToken.ofLines_asciiLower]

/-- A jump in letters of both cases, behind another line. -/
theorem classify_ignoring_case_of_jump :
    let left := "dir\nGoTo End &REM".toList
    let right := "DIR\ngoto eND &rem".toList
    Text.sameIgnoringAsciiCase left right = true ∧ left ≠ right ∧
      classify left = classify right ∧
      classify right = [⟨13, 4, .comment⟩, ⟨0, 3, .keyword⟩, ⟨4, 4, .keyword⟩, ⟨9, 3, .label⟩] ∧
      Document.semanticTokens ⟨left⟩ .utf16 1 2 = Document.semanticTokens ⟨right⟩ .utf16 1 2 := by
  intro left right
  have same : Text.sameIgnoringAsciiCase left right = true := by decide
  exact ⟨same, by decide, classify_ignoring_case.1 left right same, by decide +kernel,
    classify_ignoring_case.2 ⟨left⟩ ⟨right⟩ same .utf16 1 2⟩

end BatchLens
