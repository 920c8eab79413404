import BatchLens.Batch.Completion
import BatchLens.Batch.Hover
import BatchLens.Batch.Pairing
import BatchLens.Proofs.Batch.Classification
import BatchLens.Proofs.Text.Runs

/-!
# The ranges of answers

Everything that the engines say about a document they say about a part of one of its lines: a hover
text is about a span (`hover?_range`), a completion replaces the name in a span or the word at the
caret (`complete?_replaced`), and a closing character is inserted at the offset that was asked
about (`insertion?_offset`). So the ranges of their answers lie between places, which is all
that has to be known to tell them by positions in any encoding.
-/

namespace BatchLens

theorem isPart_of_mem_classify {text : Text} {span : Span} (isSpan : span ∈ classify text) :
    span.range.IsPart text := by
  rcases exists_covers_of_mem_classify isSpan with ⟨before, middle, behind, covers⟩
  refine ⟨before, middle, behind, covers.text_eq, ?_⟩
  rw [Span.range, covers.start_eq, covers.stop_eq]

namespace Completion

/-- A name loses at most one percent sign at each end of its span. -/
theorem isPart_nameRange {span : Span} {line before middle behind : Text}
    (covers : span.Covers line before middle behind) : (nameRange span line).IsPart line := by
  have start : ∃ mark inner, middle = mark ++ inner ∧
      span.start + (if middle.head? == some '%' then 1 else 0) = (before ++ mark).byteLen := by
    cases middle with
    | nil => exact ⟨[], [], rfl, by simp [covers.start_eq]⟩
    | cons c inner =>
        by_cases isMark : c = '%'
        · subst isMark
          exact ⟨['%'], inner, rfl, by simp [covers.start_eq]; rfl⟩
        · exact ⟨[], c :: inner, rfl, by simp [covers.start_eq, isMark]⟩
  have stop : ∃ inner mark, middle = inner ++ mark ∧
      span.stop - (if middle.byteLen > 1 && middle.getLast? == some '%' then 1 else 0) =
        (before ++ inner).byteLen := by
    by_cases ends : middle.getLast? = some '%'
    · rcases List.getLast?_eq_some_iff.mp ends with ⟨inner, rfl⟩
      by_cases long : Text.byteLen (inner ++ ['%']) > 1
      · have dropsMark : (decide (Text.byteLen (inner ++ ['%']) > 1) &&
            (inner ++ ['%']).getLast? == some '%') = true := by
          rw [decide_eq_true long, ends]
          rfl
        refine ⟨inner, ['%'], rfl, ?_⟩
        rw [if_pos dropsMark, covers.stop_eq, ← List.append_assoc,
          Text.byteLen_append (before ++ inner)]
        rfl
      · have keepsMark : ¬(decide (Text.byteLen (inner ++ ['%']) > 1) &&
            (inner ++ ['%']).getLast? == some '%') = true := by
          rw [decide_eq_false long]
          exact Bool.false_ne_true
        exact ⟨inner ++ ['%'], [], by simp, by rw [if_neg keepsMark, covers.stop_eq, Nat.sub_zero]⟩
    · exact ⟨middle, [], by simp, by simp [ends, covers.stop_eq]⟩
  rcases start with ⟨mark, inner, split, startEq⟩
  rcases stop with ⟨kept, dropped, split', stopEq⟩
  rw [nameRange, covers.text_under]
  simp only [startEq, stopEq]
  rw [Nat.max_comm]
  apply ByteRange.isPart_of_cuts
  · rw [covers.text_eq, split]
    simp only [List.append_assoc]
    rfl
  · rw [covers.text_eq, split']
    simp only [List.append_assoc]
    rfl

theorem CaretLine.cut_append (before behind : Text) :
    cut (before ++ behind) before.byteLen = ⟨before, behind⟩ := by
  simp [cut]

/-- The word is cut out of the line by the parts in front of it and behind it. -/
theorem CaretLine.line_eq (caret : CaretLine) :
    caret.before ++ caret.behind =
      caret.head ++ caret.word ++ caret.behind.dropWhile isNameChar := by
  have before : caret.head ++ Text.takeEndWhile isNameChar caret.before = caret.before :=
    Text.dropEndWhile_append_takeEndWhile isNameChar caret.before
  have behind : caret.behind.takeWhile isNameChar ++ caret.behind.dropWhile isNameChar =
      caret.behind :=
    List.takeWhile_append_dropWhile
  calc
    caret.before ++ caret.behind =
        (caret.head ++ Text.takeEndWhile isNameChar caret.before) ++
          (caret.behind.takeWhile isNameChar ++ caret.behind.dropWhile isNameChar) := by
      rw [before, behind]
    _ = caret.head ++ caret.word ++ caret.behind.dropWhile isNameChar := by
      simp only [CaretLine.word, List.append_assoc]

theorem CaretLine.isPart_wordRange (caret : CaretLine) :
    caret.wordRange.IsPart (caret.before ++ caret.behind) :=
  ⟨caret.head, caret.word, caret.behind.dropWhile isNameChar, caret.line_eq,
    by rw [wordRange, Text.byteLen_append]⟩

theorem isPart_wordRange (line : Text) (column : Nat) :
    (CaretLine.cut line column).wordRange.IsPart line := by
  have part := (CaretLine.cut line column).isPart_wordRange
  have whole : (CaretLine.cut line column).before ++ (CaretLine.cut line column).behind = line :=
    Text.takeBytes_append_dropBytes column line
  rwa [whole] at part

end Completion

namespace Document

variable {document : Document} {environment : Environment} {offset : Nat}

/-- A hover text is about a span of the line that holds the offset. -/
theorem hover?_range {settings : HoverSettings} {hover : Hover}
    (answered : document.hover? environment settings offset = some hover) :
    ∃ index span, index < document.lineCount ∧ span ∈ classify (document.line index) ∧
      hover.range =
        ⟨document.lineStart index + span.start, document.lineStart index + span.stop⟩ := by
  have isLine := document.lineOfOffset_lt (document.clamp offset)
  rw [hover?] at answered
  rcases Option.or_eq_some_iff.mp answered with onVariable | ⟨_, onKeyword⟩
  · rcases Option.bind_eq_some_iff.mp onVariable with ⟨span, found, contents⟩
    rcases Option.bind_eq_some_iff.mp contents with ⟨_, _, about⟩
    refine ⟨_, span, isLine, List.mem_of_find?_eq_some found, ?_⟩
    rw [← Option.some.inj about]
  · rcases Option.bind_eq_some_iff.mp onKeyword with ⟨span, found, contents⟩
    rcases Option.bind_eq_some_iff.mp contents with ⟨_, _, about⟩
    refine ⟨_, span, isLine, List.mem_of_find?_eq_some found, ?_⟩
    rw [← Option.some.inj about]

theorem replaced_of_setOf? {start : Nat} {range : ByteRange} {items : List CompletionItem}
    {set : CompletionSet} (offered : Completion.setOf? start range items = some set) :
    set.replaced = ⟨start + range.start, start + range.stop⟩ := by
  rw [Completion.setOf?] at offered
  split at offered
  next => exact absurd offered (by simp)
  next => rw [← Option.some.inj offered]

/-- A completion replaces a part of the line that holds the caret. -/
theorem complete?_replaced {settings : CompletionSettings} {set : CompletionSet}
    (answered : document.complete? environment settings offset = some set) :
    ∃ index, ∃ range : ByteRange, index < document.lineCount ∧ range.IsPart (document.line index) ∧
      set.replaced =
        ⟨document.lineStart index + range.start, document.lineStart index + range.stop⟩ := by
  have isLine := document.lineOfOffset_lt (document.clamp offset)
  simp only [complete?] at answered
  split at answered
  next => exact absurd answered (by simp)
  next =>
    split at answered
    next => exact absurd answered (by simp)
    next =>
      split at answered
      next => exact absurd answered (by simp)
      next =>
        split at answered
        next span found =>
          rcases exists_covers_of_mem_classify (List.mem_of_find?_eq_some found) with
            ⟨before, middle, behind, covers⟩
          exact ⟨_, _, isLine, Completion.isPart_nameRange covers, replaced_of_setOf? answered⟩
        next =>
          split at answered
          next =>
            exact ⟨_, _, isLine, Completion.isPart_wordRange _ _, replaced_of_setOf? answered⟩
          next => exact absurd answered (by simp)

/-- A closing character is inserted at the offset, rounded down to a boundary. -/
theorem insertion?_offset {typed close : Char} {place : Nat}
    (answered : Pairing.insertion? document offset typed = some (place, close)) :
    place = document.clamp offset := by
  -- Only the last of the steps gives something, and the ones before it are passed.
  simp only [Pairing.insertion?, Option.bind_eq_bind, Option.bind_none,
    Option.ite_none_left_eq_some, Option.bind_eq_some_iff, Option.some.injEq,
    Prod.mk.injEq] at answered
  rcases answered with ⟨_, _, _, _, _, _, _, _, same, _⟩
  exact same.symm

end Document

end BatchLens
