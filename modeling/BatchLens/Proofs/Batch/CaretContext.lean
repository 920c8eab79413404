import BatchLens.Proofs.Batch.KeywordTable
import BatchLens.Proofs.Batch.ReferenceCompletion
import BatchLens.Proofs.Checked.Completion
import BatchLens.Proofs.Text.Runs

/-!
# Where completion is allowed

Whether anything may be completed at a caret is decided by three looks at its line: the comments
and strings among its spans, the word that touches the caret, and the last token in front of this
word. `Document.AllowsCompletion` says of each what it has to be like, in terms of the line
alone. It is what the engine computes (`allowsCompletion_iff`), and where it fails, nothing is
offered (`complete?_of_not_allowsCompletion`).
-/

namespace BatchLens

namespace Completion

/-! ## The word at a column -/

/-- The word that touches a column of a line, with the parts of the line in front of it and behind
it: the word characters on both sides of the column, as far as there are any. -/
structure WordAt (line : Text) (column : Nat) (front left right back : Text) : Prop where
  line_eq : line = front ++ left ++ (right ++ back)
  column_eq : (front ++ left).byteLen = column
  isWord : ∀ c ∈ left ++ right, isNameChar c = true
  front_ends : ∀ c ∈ front.getLast?, isNameChar c = false
  back_begins : ∀ c ∈ back.head?, isNameChar c = false

section WordAt

variable {line front left right back : Text} {column : Nat}

/-- The word at a cut of a line. -/
theorem exists_wordAt (before behind : Text) :
    ∃ front left right back, WordAt (before ++ behind) before.byteLen front left right back := by
  refine ⟨Text.dropEndWhile isNameChar before, Text.takeEndWhile isNameChar before,
    behind.takeWhile isNameChar, behind.dropWhile isNameChar, ?_⟩
  have cutBefore := Text.dropEndWhile_append_takeEndWhile isNameChar before
  constructor
  · rw [cutBefore, List.takeWhile_append_dropWhile]
  · rw [cutBefore]
  · intro c isIn
    rcases List.mem_append.mp isIn with inLeft | inRight
    · exact Text.of_mem_takeEndWhile inLeft
    · exact List.mem_takeWhile_imp inRight
  · exact Text.not_of_mem_getLast?_dropEndWhile isNameChar before
  · exact Text.not_of_mem_head?_dropWhile isNameChar behind

variable (wordAt : WordAt line column front left right back)

include wordAt

theorem WordAt.cut_eq : CaretLine.cut line column = ⟨front ++ left, right ++ back⟩ := by
  rw [wordAt.line_eq, ← wordAt.column_eq, CaretLine.cut_append]

theorem WordAt.run_left :
    Text.takeEndWhile isNameChar (front ++ left) = left ∧
      Text.dropEndWhile isNameChar (front ++ left) = front := by
  apply Text.takeEndWhile_run _ wordAt.front_ends
  intro c isIn
  exact wordAt.isWord c (List.mem_append_left right isIn)

theorem WordAt.head_eq : (CaretLine.cut line column).head = front := by
  rw [wordAt.cut_eq]
  exact wordAt.run_left.2

theorem WordAt.word_eq : (CaretLine.cut line column).word = left ++ right := by
  have rightRun : (right ++ back).takeWhile isNameChar = right := by
    apply And.left
    apply Text.takeWhile_run _ wordAt.back_begins
    intro c isIn
    exact wordAt.isWord c (List.mem_append_right left isIn)
  rw [wordAt.cut_eq, CaretLine.word, wordAt.run_left.1, rightRun]

/-- Without a word, the character in front of the caret is the last one of the front. -/
theorem WordAt.underCaret_eq :
    (CaretLine.cut line column).underCaret =
      if left ++ right = [] then front.getLast?.toList else left ++ right := by
  rw [CaretLine.underCaret, wordAt.word_eq, wordAt.cut_eq]
  simp only [List.isEmpty_iff]
  split
  next noWord =>
    obtain ⟨rfl, rfl⟩ := List.append_eq_nil_iff.mp noWord
    rw [List.append_nil]
  next => rfl

end WordAt

/-! ## The token in front of the word -/

/-- The last token of a text. Tokens are separated by white space, and some may follow the last
one. -/
def LastToken (text token : Text) : Prop :=
  ∃ before gap, text = before ++ token ++ gap ∧ token ≠ [] ∧
    (∀ c ∈ token, Unicode.isWhiteSpace c = false) ∧ (∀ c ∈ gap, Unicode.isWhiteSpace c = true) ∧
    ∀ c ∈ before.getLast?, Unicode.isWhiteSpace c = true

/-- A text has a last token unless there is nothing but white space in it. -/
theorem exists_lastToken {text : Text}
    (notBlank : Text.dropEndWhile Unicode.isWhiteSpace text ≠ []) :
    ∃ token, LastToken text token := by
  let isSolid (c : Char) : Bool := !Unicode.isWhiteSpace c
  let solid := Text.dropEndWhile Unicode.isWhiteSpace text
  refine ⟨Text.takeEndWhile isSolid solid, Text.dropEndWhile isSolid solid,
    Text.takeEndWhile Unicode.isWhiteSpace text, ?_, ?_, ?_, ?_, ?_⟩
  · simp only [solid, Text.dropEndWhile_append_takeEndWhile]
  · intro nothing
    -- The last character is not white space, and so it belongs to the token.
    have whole := Text.dropEndWhile_append_takeEndWhile isSolid solid
    rw [nothing, List.append_nil] at whole
    have last := List.getLast?_eq_some_getLast notBlank
    have notSolid := Text.not_of_mem_getLast?_dropEndWhile isSolid solid
    rw [whole] at notSolid
    have isWhite := notSolid _ last
    have notWhite := Text.not_of_mem_getLast?_dropEndWhile Unicode.isWhiteSpace text _ last
    simp [isSolid, notWhite] at isWhite
  · intro c isIn
    simpa [isSolid] using Text.of_mem_takeEndWhile isIn
  · intro c isIn
    exact Text.of_mem_takeEndWhile isIn
  · intro c isLast
    simpa [isSolid] using Text.not_of_mem_getLast?_dropEndWhile isSolid solid c isLast

theorem LastToken.precedingToken?_eq {caret : CaretLine} {token : Text}
    (isLast : LastToken caret.head token) : caret.precedingToken? = some token := by
  rcases isLast with ⟨before, gap, head, nonempty, areSolid, isGap, ends⟩
  let isSolid (c : Char) : Bool := !Unicode.isWhiteSpace c
  have tokenRun : Text.takeEndWhile isSolid (before ++ token) = token := by
    apply And.left
    apply Text.takeEndWhile_run
    · simpa [isSolid] using areSolid
    · simpa [isSolid] using ends
  have solidEnd : ∀ c ∈ (before ++ token).getLast?, Unicode.isWhiteSpace c = false := by
    intro c isLast
    apply areSolid
    rw [List.getLast?_append_of_ne_nil _ nonempty] at isLast
    exact List.mem_of_getLast? isLast
  have gapRun : Text.dropEndWhile Unicode.isWhiteSpace (before ++ token ++ gap) = before ++ token :=
    (Text.takeEndWhile_run isGap solidEnd).2
  rcases List.eq_nil_or_concat' gap with rfl | ⟨earlier, last, rfl⟩
  · rw [List.append_nil] at head
    simp only [CaretLine.precedingToken?, head]
    rw [tokenRun]
    simp [nonempty]
  · have attached : Text.takeEndWhile isSolid (before ++ token ++ (earlier ++ [last])) = [] := by
      apply Text.takeEndWhile_eq_nil
      simpa [isSolid, ← List.append_assoc] using isGap last (by simp)
    simp only [CaretLine.precedingToken?, head, gapRun]
    rw [attached, tokenRun]
    simp [nonempty]

theorem precedingToken?_of_blank {caret : CaretLine}
    (blank : Text.dropEndWhile Unicode.isWhiteSpace caret.head = []) :
    caret.precedingToken? = none := by
  let isSolid (c : Char) : Bool := !Unicode.isWhiteSpace c
  have whole := Text.dropEndWhile_append_takeEndWhile Unicode.isWhiteSpace caret.head
  rw [blank, List.nil_append] at whole
  have attached : Text.takeEndWhile isSolid caret.head = [] := by
    apply Text.takeEndWhile_eq_nil
    intro c isLast
    have isIn := List.mem_of_getLast? isLast
    rw [← whole] at isIn
    simpa [isSolid] using Text.of_mem_takeEndWhile isIn
  simp only [CaretLine.precedingToken?, blank]
  rw [attached]
  rfl

theorem precedingToken?_eq_some_iff {caret : CaretLine} {token : Text} :
    caret.precedingToken? = some token ↔ LastToken caret.head token := by
  constructor
  · intro found
    by_cases blank : Text.dropEndWhile Unicode.isWhiteSpace caret.head = []
    · simp [precedingToken?_of_blank blank] at found
    · rcases exists_lastToken blank with ⟨other, isLast⟩
      have same := isLast.precedingToken?_eq
      rw [found] at same
      rwa [Option.some.inj same]
  · exact LastToken.precedingToken?_eq

/-- Whether a command may follow a token. An at sign in front of the token only silences the
command. What is left, if anything, begins with a letter or a percent sign, and is not the name of a
keyword, unless this keyword takes another one. -/
def MayPrecede (token : Text) : Prop :=
  ∀ first rest, Text.dropLeading '@' token = first :: rest →
    (Unicode.isAlphabetic first = true ∨ first = '%') ∧
      ∀ keyword ∈ Keyword.table, Text.sameIgnoringAsciiCase (first :: rest) keyword.name = true →
        keyword.name ∈ chainingKeywords

/-- Of the names of keywords, those that take another keyword are told apart in any case. -/
theorem mem_chainingKeywords_iff {name : Text} {keyword : Keyword}
    (isEntry : keyword ∈ Keyword.table)
    (same : Text.sameIgnoringAsciiCase name keyword.name = true) :
    keyword.name ∈ chainingKeywords ↔
      chainingKeywords.any (Text.sameIgnoringAsciiCase name) = true := by
  have areSmall : ∀ chaining ∈ chainingKeywords, Text.asciiLower chaining = chaining := by decide
  constructor
  · intro chains
    exact List.any_eq_true.mpr ⟨keyword.name, chains, same⟩
  · intro found
    rcases List.any_eq_true.mp found with ⟨chaining, chains, same'⟩
    simp only [Text.sameIgnoringAsciiCase, beq_iff_eq, Keyword.asciiLower_of_mem_table isEntry,
      areSmall chaining chains] at same same'
    rwa [← same, same']

/-- A name that forbids a keyword behind it is that of an entry which takes none. -/
theorem forbidsKeyword_eq_false_iff {name : Text} :
    (Keyword.isKeyword name && !chainingKeywords.any (Text.sameIgnoringAsciiCase name)) = false ↔
      ∀ keyword ∈ Keyword.table, Text.sameIgnoringAsciiCase name keyword.name = true →
        keyword.name ∈ chainingKeywords := by
  simp only [Bool.and_eq_false_imp, Keyword.isKeyword_iff, Bool.not_eq_false']
  constructor
  · intro chains keyword isEntry same
    exact (mem_chainingKeywords_iff isEntry same).mpr (chains ⟨keyword, isEntry, same⟩)
  · rintro chains ⟨keyword, isEntry, same⟩
    exact (mem_chainingKeywords_iff isEntry same).mp (chains keyword isEntry same)

theorem isSuppressedBehind_eq_false_iff {token : Text} :
    isSuppressedBehind token = false ↔ MayPrecede token := by
  rw [isSuppressedBehind, MayPrecede]
  cases Text.dropLeading '@' token with
  | nil => simp
  | cons first rest =>
      have begins : (!Unicode.isAlphabetic first && first != '%') = false ↔
          Unicode.isAlphabetic first = true ∨ first = '%' := by
        cases Unicode.isAlphabetic first <;> simp
      simp only [Bool.if_true_left, Bool.decide_eq_true, Bool.or_eq_false_iff, begins,
        forbidsKeyword_eq_false_iff]
      constructor
      · rintro passes first' rest' ⟨⟩
        exact passes
      · intro passes
        exact passes first rest rfl

theorem any_isSuppressedBehind_eq_false_iff {caret : CaretLine} :
    caret.precedingToken?.any isSuppressedBehind = false ↔
      ∀ token, LastToken caret.head token → MayPrecede token := by
  simp only [Option.any_eq_false, precedingToken?_eq_some_iff, isSuppressedBehind_eq_false_iff]

theorem isInCommentOrString_eq_false_iff {spans : List Span} {column : Nat} :
    isInCommentOrString spans column = false ↔
      ∀ span ∈ spans, span.category = .comment ∨ span.category = .string →
        span.containsCaret column = false := by
  simp only [isInCommentOrString, List.any_eq_false, Bool.and_eq_true, Bool.or_eq_true,
    beq_iff_eq, not_and, Bool.not_eq_true]

end Completion

namespace Document

/-! ## At the caret of a document -/

/-- The column of a caret in the line that holds it. In the break of the line it is that of the end
of what the line says. -/
def caretColumn (document : Document) (caret : Nat) : Nat :=
  min (document.clamp caret - document.lineStart (document.lineOfOffset caret))
    (document.line (document.lineOfOffset caret)).byteLen

/-- Whether something may be completed at a caret: it does not stand at the start of the document,
no comment or string covers the character in front of it, and a command may follow the last token
in front of the word that touches it. -/
structure AllowsCompletion (document : Document) (caret : Nat) : Prop where
  notAtStart : document.clamp caret ≠ 0
  isOutside : ∀ span ∈ classify (document.line (document.lineOfOffset caret)),
    span.category = .comment ∨ span.category = .string →
      span.containsCaret (document.caretColumn caret) = false
  mayFollow : ∃ front left right back,
    Completion.WordAt (document.line (document.lineOfOffset caret)) (document.caretColumn caret)
        front left right back ∧
      ∀ token, Completion.LastToken front token → Completion.MayPrecede token

/-- Whether a caret is on a word of letters, or else behind a letter, behind white space, or at the
start of a line. -/
def OnBareWord (document : Document) (caret : Nat) : Prop :=
  ∃ front left right back,
    Completion.WordAt (document.line (document.lineOfOffset caret)) (document.caretColumn caret)
        front left right back ∧
      ∀ c ∈ if left ++ right = [] then front.getLast?.toList else left ++ right,
        Unicode.isAlphabetic c = true ∨ Unicode.isWhiteSpace c = true

/-- The line that holds a caret, as the caret cuts it. -/
def caretLine (document : Document) (caret : Nat) : Completion.CaretLine :=
  Completion.CaretLine.cut (document.line (document.lineOfOffset caret))
    (document.caretColumn caret)

variable {document : Document} {environment : Environment} {settings : CompletionSettings}
  {caret : Nat}

theorem exists_wordAt_caret (document : Document) (caret : Nat) :
    ∃ front left right back,
      Completion.WordAt (document.line (document.lineOfOffset caret)) (document.caretColumn caret)
        front left right back := by
  rcases Checked.exists_cut_caret document caret with ⟨before, behind, line, column⟩
  rw [lineOfOffset_clamp] at line column
  rw [caretColumn, line, column]
  exact Completion.exists_wordAt before behind

theorem onBareWord_iff :
    document.OnBareWord caret ↔ (document.caretLine caret).isOnBareWord = true := by
  simp only [OnBareWord, Completion.CaretLine.isOnBareWord, List.all_eq_true, Bool.or_eq_true]
  constructor
  · rintro ⟨front, left, right, back, wordAt, areBare⟩
    rwa [caretLine, wordAt.underCaret_eq]
  · intro areBare
    rcases document.exists_wordAt_caret caret with ⟨front, left, right, back, wordAt⟩
    rw [caretLine, wordAt.underCaret_eq] at areBare
    exact ⟨front, left, right, back, wordAt, areBare⟩

/-- Completion is allowed where none of the tests of the engine forbids it. -/
theorem allowsCompletion_iff :
    document.AllowsCompletion caret ↔
      document.clamp caret ≠ 0 ∧
      Completion.isInCommentOrString (classify (document.line (document.lineOfOffset caret)))
        (document.caretColumn caret) = false ∧
      (document.caretLine caret).precedingToken?.any Completion.isSuppressedBehind = false := by
  rw [Completion.isInCommentOrString_eq_false_iff, Completion.any_isSuppressedBehind_eq_false_iff]
  constructor
  · rintro ⟨notAtStart, isOutside, front, left, right, back, wordAt, mayPrecede⟩
    refine ⟨notAtStart, isOutside, ?_⟩
    rwa [caretLine, wordAt.head_eq]
  · rintro ⟨notAtStart, isOutside, mayPrecede⟩
    rcases document.exists_wordAt_caret caret with ⟨front, left, right, back, wordAt⟩
    rw [caretLine, wordAt.head_eq] at mayPrecede
    exact ⟨notAtStart, isOutside, front, left, right, back, wordAt, mayPrecede⟩

theorem complete?_of_not_allowsCompletion (forbidden : ¬document.AllowsCompletion caret) :
    document.complete? environment settings caret = none := by
  rw [allowsCompletion_iff] at forbidden
  simp only [complete?, lineOfOffset_clamp]
  split
  next => rfl
  next notAtStart =>
    split
    next => rfl
    next isOutside =>
      split
      next => rfl
      next mayFollow =>
        apply absurd _ forbidden
        exact ⟨notAtStart, Bool.of_not_eq_true isOutside, Bool.of_not_eq_true mayFollow⟩

/-- On a variable name, where completion is allowed, variables are offered. -/
theorem AllowsCompletion.complete?_of_onIdentifier {span : Span}
    (allows : document.AllowsCompletion caret) (onName : document.OnIdentifier caret span) :
    document.complete? environment settings caret =
      Completion.setOf? (document.lineStart (document.lineOfOffset caret))
        (Completion.nameRange span (document.line (document.lineOfOffset caret)))
        (Completion.variableItems document environment settings
          ⟨document.lineStart (document.lineOfOffset caret) + span.start,
            document.lineStart (document.lineOfOffset caret) + span.stop⟩) := by
  rcases allowsCompletion_iff.mp allows with ⟨notAtStart, isOutside, mayFollow⟩
  have found := Classification.find?_containsCaret onName.isSpan onName.containsCaret
  rw [onName.isIdentifier] at found
  rw [caretLine] at mayFollow
  rw [caretColumn] at isOutside mayFollow
  simp only [complete?, lineOfOffset_clamp, if_neg notAtStart, isOutside, mayFollow, found,
    Bool.false_eq_true, if_false]

/-- Elsewhere, where completion is allowed, keywords are offered on a bare word. -/
theorem AllowsCompletion.complete?_of_not_onIdentifier
    (allows : document.AllowsCompletion caret)
    (noName : ∀ span, ¬document.OnIdentifier caret span) :
    document.complete? environment settings caret =
      if settings.keywords && (document.caretLine caret).isOnBareWord then
        Completion.setOf? (document.lineStart (document.lineOfOffset caret))
          (document.caretLine caret).wordRange (Keyword.table.map Completion.keywordItem)
      else none := by
  rcases allowsCompletion_iff.mp allows with ⟨notAtStart, isOutside, mayFollow⟩
  have notFound : (classify (document.line (document.lineOfOffset caret))).find? (fun span =>
      span.category == .identifier && span.containsCaret (document.caretColumn caret)) = none := by
    rw [List.find?_eq_none]
    intro span isSpan passes
    rw [Bool.and_eq_true, beq_iff_eq] at passes
    exact noName span ⟨isSpan, passes.1, passes.2⟩
  rw [caretLine] at mayFollow ⊢
  rw [caretColumn] at isOutside mayFollow notFound ⊢
  simp only [complete?, lineOfOffset_clamp, if_neg notAtStart, isOutside, mayFollow, notFound,
    Bool.false_eq_true, if_false]

end Document

end BatchLens
