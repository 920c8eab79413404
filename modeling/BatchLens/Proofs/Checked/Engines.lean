import BatchLens.Batch.Pairing
import BatchLens.Proofs.Batch.OnLine
import BatchLens.Proofs.Checked.Completion
import BatchLens.Proofs.Checked.Hover
import BatchLens.Proofs.Checked.SemanticToken
import BatchLens.Proofs.Protocol.LongDocument

/-!
# Engines without faults

Whatever an editor sends, no engine comes upon an index behind the end, a part of a text that would
split a character, or a difference below zero (`engines_never_fault`). Offsets may lie inside a
character, inside a break or behind the end, positions and ranges of lines may leave the document,
and any character may have been typed. Only the differences between tokens need numbers of 32 bits
that are large enough for the lines and their columns.
-/

namespace BatchLens

namespace Checked

/-! ## Closing pairs -/

/-- Where to insert which closing character, after `typed` was entered just before `offset`. -/
def insertion (document : Document) (offset : Nat) (typed : Char) :
    Checked (Option (Nat × Char)) :=
  match Pairing.closing? typed with
  | none => .ok none
  | some close => do
      let offset ← clamp document offset
      let index ← lineOfOffset document offset
      let start ← lineStart document index
      let line ← line document index
      if offset < start then .ok none
      else
        let column := offset - start
        if column < typed.utf8Size then .ok none
        else
          let typedAt := column - typed.utf8Size
          match Text.slice? line ⟨typedAt, line.byteLen⟩ with
          | none => .ok none
          | some behind =>
              if behind.head? != some typed then .ok none
              else if !Pairing.canComplete line typedAt then .ok none
              else if Pairing.isSymmetric typed then do
                let before ← front line column
                .ok (if before.count typed % 2 == 0 then none else some (offset, close))
              else .ok (some (offset, close))

/-- Once the typed character has been found in front of a column, the column is a boundary. -/
theorem front_of_slice? {line behind : Text} {typed : Char} {column : Nat}
    (enough : typed.utf8Size ≤ column)
    (found : Text.slice? line ⟨column - typed.utf8Size, line.byteLen⟩ = some behind)
    (isTyped : behind.head? = some typed) :
    front line column = .ok (Text.takeBytes column line) := by
  rcases Text.exists_cut_of_slice? found with ⟨stem, rfl, length⟩
  rcases List.head?_eq_some_iff.mp isTyped with ⟨others, rfl⟩
  have columnEq : column = Text.byteLen (stem ++ [typed]) := by
    rw [Text.byteLen_append, length, Text.byteLen_cons, Text.byteLen_nil]
    omega
  have split : stem ++ typed :: others = (stem ++ [typed]) ++ others := by simp
  rw [split, columnEq, front_cut, Text.takeBytes_cut]

theorem insertion_eq (document : Document) (offset : Nat) (typed : Char) :
    insertion document offset typed = .ok (Pairing.insertion? document offset typed) := by
  -- The subtraction that gives the column is checked by the engine itself; this check never fails.
  have started : ¬document.clamp offset <
      document.lineStart (document.lineOfOffset (document.clamp offset)) := by
    rcases document.exists_held offset with ⟨earlier, head, tail, line, later, held⟩
    rw [held.lineOfOffset_eq, held.lineStart_eq, held.offset_eq, Text.byteLen_append]
    omega
  rw [insertion, Pairing.insertion?]
  cases Pairing.closing? typed with
  | none => rfl
  | some close =>
      simp only [clamp_eq, lineOfOffset_eq, lineStart_eq, line_eq, ok_bind, if_neg started,
        Option.bind_eq_bind, Option.bind_some, Option.bind_none]
      split
      next => rfl
      next enough =>
        cases found : Text.slice? (document.line (document.lineOfOffset (document.clamp offset)))
            ⟨document.clamp offset -
                document.lineStart (document.lineOfOffset (document.clamp offset)) -
              typed.utf8Size,
              (document.line (document.lineOfOffset (document.clamp offset))).byteLen⟩ with
        | none => rfl
        | some behind =>
            simp only [Option.bind_some]
            split
            next => rfl
            next isTyped =>
              split
              next => rfl
              next =>
                have cut := front_of_slice? (Nat.le_of_not_lt enough) found (by simpa using isTyped)
                cases Pairing.isSymmetric typed with
                | false => rfl
                | true =>
                    simp only [if_true, cut, ok_bind, Bool.true_and]

end Checked

/-! ## What the engines cut out of a line -/

/-- Whether a span covers at least one character of a text, and every character as a whole. -/
structure Span.IsInside (span : Span) (text : Text) : Prop where
  start_lt : span.start < span.stop
  stop_le : span.stop ≤ text.byteLen
  isBoundary_start : text.isBoundary span.start = true
  isBoundary_stop : text.isBoundary span.stop = true

theorem isInside_of_mem_classify {text : Text} {span : Span} (isSpan : span ∈ classify text) :
    span.IsInside text := by
  rcases inside_of_mem_classify isSpan with ⟨nonempty, inside⟩
  rcases exists_covers_of_mem_classify isSpan with ⟨before, middle, behind, covers⟩
  refine ⟨nonempty, inside, ?_, ?_⟩
  · exact Text.isBoundary_iff.mpr
      ⟨before, middle ++ behind, by rw [covers.text_eq, List.append_assoc], covers.start_eq.symm⟩
  · exact Text.isBoundary_iff.mpr ⟨before ++ middle, behind, covers.text_eq, covers.stop_eq.symm⟩

/-- Whether a column is a boundary of a line, and all that is cut out of the line around it lies
inside. -/
structure Checked.CutsAt (line : Text) (column : Nat) : Prop where
  isBoundary : line.isBoundary column = true
  word : ∃ word, Checked.wordRange line column = .ok word ∧ word.IsPart line ∧
    (∃ under, Checked.underCaret line column word = .ok under ∧ under.IsPart line) ∧
    ∃ token?, Checked.precedingToken line word.start = .ok token? ∧
      ∀ token, token? = some token →
        ∃ before behind, line = before ++ token ++ behind ∧
          (before ++ token).byteLen ≤ word.start

theorem Completion.CaretLine.exists_cut_precedingToken? {before behind token : Text}
    (isToken : (mk before behind).precedingToken? = some token) :
    ∃ front rest, before ++ behind = front ++ token ++ rest ∧
      (front ++ token).byteLen ≤ (mk before behind).wordRange.start := by
  let isSolid (c : Char) : Bool := !Unicode.isWhiteSpace c
  have line : before ++ behind =
      (mk before behind).head ++ (Text.takeEndWhile isNameChar before ++ behind) := by
    rw [head, ← List.append_assoc, Text.dropEndWhile_append_takeEndWhile]
  simp only [precedingToken?] at isToken
  split at isToken
  next =>
    obtain rfl := Option.some.inj isToken
    have whole := Text.dropEndWhile_append_takeEndWhile isSolid (mk before behind).head
    exact ⟨_, _, by rw [whole]; exact line, by rw [whole]; exact Nat.le_refl _⟩
  next =>
    split at isToken
    next => cases isToken
    next =>
      obtain rfl := Option.some.inj isToken
      have trimmed := Text.dropEndWhile_append_takeEndWhile Unicode.isWhiteSpace
        (mk before behind).head
      have whole := Text.dropEndWhile_append_takeEndWhile isSolid
        (Text.dropEndWhile Unicode.isWhiteSpace (mk before behind).head)
      have shorter := congrArg Text.byteLen trimmed
      rw [Text.byteLen_append] at shorter
      refine ⟨_, _, by rw [whole, ← List.append_assoc, trimmed]; exact line, ?_⟩
      rw [whole, wordRange]
      dsimp only
      omega

theorem Checked.cutsAt_byteLen (before behind : Text) :
    Checked.CutsAt (before ++ behind) before.byteLen := by
  have wordPart := Completion.CaretLine.isPart_wordRange ⟨before, behind⟩
  rcases Checked.exists_underCaret before behind with ⟨under, found, underPart, -⟩
  exact ⟨Text.isBoundary_iff.mpr ⟨before, behind, rfl, rfl⟩,
    _, Checked.wordRange_eq before behind, wordPart, ⟨under, found, underPart⟩,
    _, Checked.precedingToken_eq before behind,
    fun _ isToken => Completion.CaretLine.exists_cut_precedingToken? isToken⟩

/-! ## The engines -/

/-- Whether the engines, made of operations that tell their faults, tell none about a document, but
have the results that they have elsewhere. The tokens are written in numbers of 32 bits: these have
to be large enough for the lines of the document and the units of each, and a difference between two
tokens is all that can fail where they are not. -/
structure Document.NeverFaults (document : Document) (environment : Environment)
    (encoding : PositionEncoding) : Prop where
  hover : ∀ settings offset,
    Checked.hover document environment settings offset =
      .ok (document.hover? environment settings offset)
  complete : ∀ settings caret,
    Checked.complete document environment settings caret =
      .ok (document.complete? environment settings caret)
  insertion : ∀ offset typed,
    Checked.insertion document offset typed = .ok (Pairing.insertion? document offset typed)
  semanticTokens : document.StartsFit encoding → ∀ start stop,
    Checked.semanticTokens document encoding start stop =
      .ok (document.semanticTokens encoding start stop)
  eq_underflow : ∀ start stop fault,
    Checked.semanticTokens document encoding start stop = .error fault → fault = .underflow
  offsetOf : ∀ position,
    Checked.offsetOf document encoding position = .ok (document.offsetOf encoding position)
  positionOf : ∀ offset,
    Checked.positionOf document encoding offset = .ok (document.positionOf encoding offset)
  line : ∀ index, Checked.line document index = .ok (document.line index)
  slice : ∀ range, Checked.slice document range = .ok (document.slice range)
  replace : ∀ range new,
    Checked.replace document range new = .ok (document.replace range new)

/-- No engine fails, whatever is asked about a document, unless its lines or the units of one are
more than the 32 bits of its tokens can tell. Every span of a text lies inside it, and so does the
name in a span. The caret column at which a completion cuts its line is a boundary of the line, and
the word there, what is under the caret and the token before it lie inside the line. -/
theorem Document.engines_never_fault (document : Document) (environment : Environment)
    (encoding : PositionEncoding) :
    document.NeverFaults environment encoding ∧
      (∀ text : Text, ∀ span ∈ classify text,
        span.IsInside text ∧
          Checked.nameRange span text = .ok (Completion.nameRange span text) ∧
          (Completion.nameRange span text).IsPart text) ∧
      ∀ caret,
        let index := document.lineOfOffset (document.clamp caret)
        let line := document.line index
        Checked.CutsAt line
          (min (document.clamp caret - document.lineStart index) line.byteLen) := by
  refine ⟨?_, ?_, ?_⟩
  · exact {
      hover := Checked.hover_eq document environment
      complete := Checked.complete_eq document environment
      insertion := Checked.insertion_eq document
      semanticTokens := Checked.semanticTokens_eq
      eq_underflow := fun _ _ _ => Checked.eq_underflow_of_semanticTokens
      offsetOf := Checked.offsetOf_eq document encoding
      positionOf := Checked.positionOf_eq document encoding
      line := Checked.line_eq document
      slice := Checked.slice_eq document
      replace := Checked.replace_eq document }
  · intro text span isSpan
    rcases exists_covers_of_mem_classify isSpan with ⟨before, middle, behind, covers⟩
    exact ⟨isInside_of_mem_classify isSpan, Checked.nameRange_eq isSpan,
      Completion.isPart_nameRange covers⟩
  · intro caret index line
    rcases Checked.exists_cut_caret document caret with ⟨before, behind, content, column⟩
    have lineEq : line = before ++ behind := content
    rw [lineEq, column]
    exact Checked.cutsAt_byteLen before behind

/-- A caret between a carriage return and its line feed, behind a character of two bytes, counts as
the end of the line. -/
theorem Document.engines_never_fault_inside_break :
    let document : Document := ⟨"echo é\r\n%A%".toList⟩
    let environment : Environment := ⟨fun _ => none, []⟩
    document.Fits .utf16 ∧
      Checked.CutsAt (document.line 0) 7 ∧
      Checked.complete document environment {} 8 = .ok none ∧
      (∃ span ∈ classify (document.line 1), span.IsInside (document.line 1)) ∧
      Checked.semanticTokens document .utf16 0 2 = .ok (document.semanticTokens .utf16 0 2) := by
  intro document environment
  rcases engines_never_fault document environment .utf16 with ⟨never, spans, cuts⟩
  have fits : document.Fits .utf16 := ⟨by decide +kernel, by decide +kernel⟩
  have atCaret : document.clamp 8 = 8 ∧ document.lineOfOffset 8 = 0 ∧ document.lineStart 0 = 0 ∧
      (document.line 0).byteLen = 7 := by
    decide +kernel
  have nothing : document.complete? environment {} 8 = none := by decide +kernel
  have isSpan : ⟨0, 3, .identifier⟩ ∈ classify (document.line 1) := by decide +kernel
  rcases atCaret with ⟨clamped, index, start, length⟩
  have cut := cuts 8
  simp only [clamped, index, start, length] at cut
  refine ⟨fits, cut, ?_, ⟨_, isSpan, (spans _ _ isSpan).1⟩,
    never.semanticTokens fits.startsFit 0 2⟩
  rw [never.complete, nothing]

/-- One line too many, or one unit too many on a line, and a token comes in front of the one before
it: in 32 bits a bar behind 2^32 line feeds is on the first line, and a bar behind 2^32 characters
at the start of its line. -/
theorem Document.not_engines_never_fault :
    let document := barsApart 0xFFFFFFFF
    let line := Classification.barsInLine 0xFFFFFFFD
    (document.lineCount = 0x100000001 ∧
      Checked.semanticTokens document .utf16 0 document.lineCount = .error .underflow) ∧
    PositionEncoding.utf16.unitCount line = 0x100000001 ∧
      Checked.semanticTokens ⟨line⟩ .utf16 0 1 = .error .underflow := by
  intro document line
  refine ⟨⟨lineCount_barsApart _, ?_⟩, SemanticToken.unitCount_barsInLine _ _, ?_⟩
  · apply Checked.semanticTokens_of_not_neverUnderflows
    rw [SemanticToken.ofLines_barsApart]
    rintro ⟨_, _, _, startLe, _⟩
    exact absurd (startLe rfl) (by decide)
  · apply Checked.semanticTokens_of_not_neverUnderflows
    rw [SemanticToken.ofLines_barsInLine]
    rintro ⟨_, _, _, startLe, _⟩
    exact absurd (startLe rfl) (by decide)

end BatchLens
