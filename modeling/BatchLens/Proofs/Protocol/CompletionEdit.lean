import BatchLens.Environment.Fixed
import BatchLens.Proofs.Batch.CaretContext
import BatchLens.Proofs.Batch.OnLine
import BatchLens.Proofs.Protocol.LineRange
import BatchLens.Proofs.Protocol.LongDocument
import BatchLens.Protocol.Answer

/-!
# Where a completion is put

A completion takes the place of the name in a span or of the word at the caret, so the caret touches
what is replaced, but for one case: it may stand behind the percent sign that closes a reference
(`nameRange_of_containsCaret`). Both are parts of the line that holds the caret, and an editor is
told of them by positions on that line. These lead back to them, unless the number of the line is
2^32 or more: then they lead to an earlier line (`byteRangeOf_ne_of_beyond`).
-/

namespace BatchLens

namespace Completion

variable {span : Span} {line : Text} {column : Nat}

/-- Whether a span closes with a percent sign that does not open it as well. -/
def ClosesWithMark (span : Span) (line : Text) : Prop :=
  (span.text line).tail.getLast? = some '%'

theorem closesWithMark_of_closes
    (closes : (Text.byteLen (span.text line) > 1 && (span.text line).getLast? == some '%') = true) :
    ClosesWithMark span line := by
  rw [Bool.and_eq_true, decide_eq_true_iff, beq_iff_eq] at closes
  rcases closes with ⟨isLong, last⟩
  rw [ClosesWithMark]
  cases parts : span.text line with
  | nil => simp [parts] at last
  | cons c rest =>
      rw [parts] at isLong last
      cases rest with
      | nil =>
          obtain rfl : c = '%' := by simpa using last
          exact absurd isLong (by decide)
      | cons d others => simpa using last

/-- The name in a span reaches to a caret in the span, unless the caret stands behind the percent
sign that closes the span. -/
theorem nameRange_of_containsCaret (inside : span.containsCaret column = true) :
    (nameRange span line).start ≤ column ∧
      (column ≤ (nameRange span line).stop ∨
        column = (nameRange span line).stop + 1 ∧ span.stop = column ∧
          ClosesWithMark span line) := by
  simp only [Span.containsCaret, Bool.and_eq_true, decide_eq_true_eq] at inside
  rcases inside with ⟨behindStart, upToStop⟩
  simp only [nameRange]
  have start : span.start + (if (span.text line).head? == some '%' then 1 else 0) ≤ column := by
    split <;> omega
  refine ⟨start, ?_⟩
  split
  next closes =>
    rcases Nat.lt_or_ge column span.stop with isInside | isAtStop
    · left
      omega
    · by_cases isEmpty : column ≤ span.start + (if (span.text line).head? == some '%' then 1 else 0)
      · left
        omega
      · right
        exact ⟨by omega, by omega, closesWithMark_of_closes closes⟩
  next =>
    left
    omega

/-- On an empty line keywords are offered. -/
theorem isSome_onLine?_nil (inPlaceOf : Span → List CompletionItem) :
    (onLine? {} inPlaceOf [] 0).isSome = true := by
  have classified : classify [] = [] := by decide
  rw [onLine?, classified]
  rfl

theorem WordAt.wordRange_eq {front left right back : Text}
    (wordAt : WordAt line column front left right back) :
    (CaretLine.cut line column).wordRange =
      ⟨front.byteLen, (front ++ left ++ right).byteLen⟩ := by
  rw [CaretLine.wordRange, wordAt.head_eq, wordAt.word_eq, List.append_assoc front,
    Text.byteLen_append front]

end Completion

namespace Document

variable {document : Document} {environment : Environment} {settings : CompletionSettings}
  {caret : Nat} {set : CompletionSet}

/-- What is offered are variables in place of a name, or keywords in place of a word. -/
theorem complete?_cases (answered : document.complete? environment settings caret = some set) :
    (∃ span, document.OnIdentifier caret span ∧
      Completion.setOf? (document.lineStart (document.lineOfOffset caret))
        (Completion.nameRange span (document.line (document.lineOfOffset caret)))
        (Completion.variableItems document environment settings
          ⟨document.lineStart (document.lineOfOffset caret) + span.start,
            document.lineStart (document.lineOfOffset caret) + span.stop⟩) = some set) ∨
      Completion.setOf? (document.lineStart (document.lineOfOffset caret))
        (document.caretLine caret).wordRange (Keyword.table.map Completion.keywordItem) =
          some set := by
  have allows : document.AllowsCompletion caret := by
    by_contra forbidden
    rw [complete?_of_not_allowsCompletion forbidden] at answered
    exact absurd answered (by simp)
  by_cases onName : ∃ span, document.OnIdentifier caret span
  · rcases onName with ⟨span, onName⟩
    exact .inl ⟨span, onName, onName.setOf?_eq answered⟩
  · rw [allows.complete?_of_not_onIdentifier (not_exists.mp onName)] at answered
    split at answered
    next => exact .inr answered
    next => exact absurd answered (by simp)

/-- The part of its line that a completion replaces. -/
structure Replaces (document : Document) (caret : Nat) (set : CompletionSet) (range : ByteRange) :
    Prop where
  replaced_eq : set.replaced = ⟨document.lineStart (document.lineOfOffset caret) + range.start,
    document.lineStart (document.lineOfOffset caret) + range.stop⟩
  isPart : range.IsPart (document.line (document.lineOfOffset caret))
  start_le : range.start ≤ document.caretColumn caret
  le_stop : document.caretColumn caret ≤ range.stop ∨
    document.caretColumn caret = range.stop + 1 ∧ ∃ span, document.OnIdentifier caret span ∧
      span.stop = document.caretColumn caret ∧
      Completion.ClosesWithMark span (document.line (document.lineOfOffset caret))
  isWord : ∀ item ∈ set.items, item.kind = .keyword → ∃ front left right back,
    Completion.WordAt (document.line (document.lineOfOffset caret)) (document.caretColumn caret)
        front left right back ∧
      range = ⟨front.byteLen, (front ++ left ++ right).byteLen⟩

theorem exists_replaces (answered : document.complete? environment settings caret = some set) :
    ∃ range, document.Replaces caret set range := by
  rcases complete?_cases answered with ⟨span, onName, offered⟩ | offered
  · rcases exists_covers_of_mem_classify onName.isSpan with ⟨before, middle, behind, covers⟩
    have inside : span.containsCaret (document.caretColumn caret) = true := onName.containsCaret
    rcases Completion.nameRange_of_containsCaret inside with ⟨start, stop⟩
    refine ⟨_, replaced_of_setOf? offered, Completion.isPart_nameRange covers, start, ?_, ?_⟩
    · exact stop.imp_right fun ⟨column, atStop, closes⟩ => ⟨column, span, onName, atStop, closes⟩
    · intro item isItem isKeyword
      have isCandidate := Completion.mem_of_setOf? offered isItem
      have isVariable := (Completion.insertText_of_mem_variableItems isCandidate).2
      rw [isKeyword] at isVariable
      exact CompletionKind.noConfusion isVariable
  · rcases document.exists_wordAt_caret caret with ⟨front, left, right, back, wordAt⟩
    have range : (document.caretLine caret).wordRange =
        ⟨front.byteLen, (front ++ left ++ right).byteLen⟩ := wordAt.wordRange_eq
    rw [range] at offered
    refine ⟨_, replaced_of_setOf? offered, ?_, ?_, .inl ?_, ?_⟩
    · exact ⟨front, left ++ right, back, by simp [wordAt.line_eq], by simp⟩
    · simp [← wordAt.column_eq]
    · simp [← wordAt.column_eq]
    · intro _ _ _
      exact ⟨front, left, right, back, wordAt, rfl⟩

/-- Every item is offered in its place, with an edit of the one range. -/
theorem map_offeredItems (document : Document) (encoding : PositionEncoding)
    (set : CompletionSet) :
    (document.offeredItems encoding set).map (fun offered => (offered.item, offered.edit)) =
      set.items.map fun item =>
        (item, ⟨document.positionRangeOf encoding set.replaced, item.insertText⟩) := by
  have items := List.zipIdx_map_fst 0 set.items
  rw [offeredItems, List.map_map]
  conv_rhs => rw [← items, List.map_map]
  rfl

theorem items_ne_nil_of_complete?
    (answered : document.complete? environment settings caret = some set) : set.items ≠ [] := by
  rcases complete?_cases answered with ⟨_, _, offered⟩ | offered
  · exact Completion.items_ne_nil_of_setOf? offered
  · exact Completion.items_ne_nil_of_setOf? offered

/-- On a line whose number cannot be told in 32 bits, the range of an edit does not lead to what is
replaced. -/
theorem byteRangeOf_ne_of_beyond
    (answered : document.complete? environment settings caret = some set)
    (beyond : 0x100000000 ≤ document.lineOfOffset caret) {encoding : PositionEncoding}
    {offered : OfferedItem} (isOffered : offered ∈ document.offeredItems encoding set) :
    document.byteRangeOf encoding offered.edit.range ≠ set.replaced := by
  rcases exists_replaces answered with ⟨range, replaces⟩
  have isLine : document.lineOfOffset caret < document.lineCount := document.lineOfOffset_lt caret
  rcases Line.exists_split isLine with ⟨earlier, ⟨content, ending⟩, later, lines, number⟩
  rcases replaces.isPart with ⟨before, middle, behind, parts, rfl⟩
  rw [← number, line_of_lines lines] at parts
  obtain rfl : content = before ++ middle ++ behind := parts
  have located : document.Located set.replaced.start earlier before (middle ++ behind) ending
      later := by
    refine ⟨by rw [lines, List.append_assoc before], ?_⟩
    rw [replaces.replaced_eq, ← number, lineStart_of_lines lines]
    exact (Text.byteLen_append ..).symm
  rcases List.mem_map.mp isOffered with ⟨_, _, rfl⟩
  intro leadsBack
  have earlierPlace : document.offsetOf encoding
      (document.positionOf encoding set.replaced.start) < set.replaced.start :=
    located.offsetOf_positionOf_lt (by rwa [number])
  exact absurd (congrArg ByteRange.start leadsBack) (Nat.ne_of_lt earlierPlace)

/-- A completion replaces a part of the line that holds the caret, and the caret touches it, or
stands behind the percent sign that closes a reference. With keywords, it is the word at the caret.
The answer has every item of the set in its place, with an edit that puts its text into one range
on that line. In every encoding this range leads back to the part that is replaced, if the number of
the line and its units can be told in 32 bits. -/
theorem complete?_edit (answered : document.complete? environment settings caret = some set) :
    let index := document.lineOfOffset caret
    let line := document.line index
    let start := document.lineStart index
    let column := document.caretColumn caret
    document.InLine index set.replaced ∧
    set.replaced.start ≤ start + column ∧
    (start + column ≤ set.replaced.stop ∨
      start + column = set.replaced.stop + 1 ∧ ∃ span, document.OnIdentifier caret span ∧
        span.stop = column ∧ Completion.ClosesWithMark span line) ∧
    (∀ item ∈ set.items, item.kind = .keyword → ∃ front left right back,
      Completion.WordAt line column front left right back ∧
        set.replaced = ⟨start + front.byteLen, start + (front ++ left ++ right).byteLen⟩) ∧
    set.items ≠ [] ∧
    ∀ encoding, ∃ range offered,
      document.Tells encoding index set.replaced range ∧
      document.completionAnswer encoding set = .completion offered ∧
      offered.map (fun entry => (entry.item, entry.edit)) =
        set.items.map fun item => (item, ⟨range, item.insertText⟩) := by
  intro index line start column
  rcases exists_replaces answered with ⟨range, replaces⟩
  have isLine : index < document.lineCount := document.lineOfOffset_lt caret
  rw [replaces.replaced_eq]
  refine ⟨inLine_of_isPart isLine replaces.isPart, ?_, ?_, ?_, items_ne_nil_of_complete? answered,
    ?_⟩
  · exact Nat.add_le_add_left replaces.start_le start
  · apply replaces.le_stop.imp
    · intro inside
      exact Nat.add_le_add_left inside start
    · rintro ⟨behind, closes⟩
      exact ⟨congrArg (start + ·) behind, closes⟩
  · intro item isItem isKeyword
    rcases replaces.isWord item isItem isKeyword with ⟨front, left, right, back, wordAt, rfl⟩
    exact ⟨front, left, right, back, wordAt, rfl⟩
  · intro encoding
    refine ⟨document.positionRangeOf encoding set.replaced, document.offeredItems encoding set, ?_,
      rfl, map_offeredItems document encoding set⟩
    rw [replaces.replaced_eq]
    exact tells_of_isPart isLine replaces.isPart encoding

/-- Behind a reference on the second line, at the end of the document. -/
theorem complete?_edit_behind_reference :
    ∃ set, complete? ⟨"cd\ncd 世 %a%".toList⟩
        (FixedEnvironment.ofList [("A".toList, "1".toList)]).toEnvironment {} 13 = some set ∧
      InLine ⟨"cd\ncd 世 %a%".toList⟩ 1 set.replaced ∧ set.replaced.start ≤ 13 ∧
      set.items ≠ [] ∧
      ∀ encoding, ∃ range offered,
        byteRangeOf ⟨"cd\ncd 世 %a%".toList⟩ encoding range = set.replaced ∧
        completionAnswer ⟨"cd\ncd 世 %a%".toList⟩ encoding set = .completion offered ∧
        offered.map (fun entry => (entry.item, entry.edit)) =
          set.items.map fun item => (item, ⟨range, item.insertText⟩) := by
  have isOnLine : lineOfOffset ⟨"cd\ncd 世 %a%".toList⟩ 13 = 1 := by decide +kernel
  have start : lineStart ⟨"cd\ncd 世 %a%".toList⟩ 1 = 3 := by decide +kernel
  have column : caretColumn ⟨"cd\ncd 世 %a%".toList⟩ 13 = 10 := by decide +kernel
  have small (encoding : PositionEncoding) :
      encoding.unitCount (line ⟨"cd\ncd 世 %a%".toList⟩ 1) < 0x100000000 := by
    cases encoding <;> decide +kernel
  have isSome : (complete? ⟨"cd\ncd 世 %a%".toList⟩
      (FixedEnvironment.ofList [("A".toList, "1".toList)]).toEnvironment {} 13).isSome = true := by
    decide +kernel
  rcases Option.isSome_iff_exists.mp isSome with ⟨set, answered⟩
  have placed := complete?_edit answered
  simp only [isOnLine, start, column] at placed
  rcases placed with ⟨inLine, before, _, _, someItems, tells⟩
  refine ⟨set, answered, inLine, before, someItems, ?_⟩
  intro encoding
  rcases tells encoding with ⟨range, offered, leads, answers, areEdits⟩
  exact ⟨range, offered, leads.leadsBack (by decide) (small encoding), answers, areEdits⟩

/-- In a document of 2^32 line feeds, all lines of which are empty, keywords are offered at the end,
and the range of each edit leads to an earlier place. -/
theorem not_complete?_edit :
    let document : Document := ⟨List.replicate 0x100000000 '\n'⟩
    ∃ set, document.complete? ⟨fun _ => none, []⟩ {} 0x100000000 = some set ∧
      set.items ≠ [] ∧
      ∀ encoding : PositionEncoding,
        (∀ line ∈ document.lines, encoding.unitCount line.content < 0x100000000) ∧
        ∀ offered ∈ document.offeredItems encoding set,
          document.byteRangeOf encoding offered.edit.range ≠ set.replaced := by
  intro document
  have behind := located_behind_lineFeeds 0x100000000
  have isAtEnd : document.lineOfOffset 0x100000000 = 0x100000000 := by
    rw [behind.lineOfOffset_eq, List.length_replicate]
  have offers : (document.complete? ⟨fun _ => none, []⟩ {} 0x100000000).isSome = true := by
    rw [complete?_located behind (by decide), Option.isSome_map]
    exact Completion.isSome_onLine?_nil _
  rcases Option.isSome_iff_exists.mp offers with ⟨set, answered⟩
  refine ⟨set, answered, items_ne_nil_of_complete? answered, ?_⟩
  intro encoding
  constructor
  · have noUnits : encoding.unitCount [] < 0x100000000 := by simp
    rw [behind.lines]
    intro line isLine
    rcases List.mem_append.mp isLine with isEarlier | isLast
    · rw [List.eq_of_mem_replicate isEarlier]
      exact noUnits
    · rw [List.mem_singleton.mp isLast]
      exact noUnits
  · intro offered isOffered
    exact byteRangeOf_ne_of_beyond answered (Nat.le_of_eq isAtEnd.symm) isOffered

end Document

end BatchLens
