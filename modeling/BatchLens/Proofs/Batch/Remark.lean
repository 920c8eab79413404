import BatchLens.Proofs.Batch.CaretContext
import BatchLens.Proofs.Batch.TrailingComment

/-!
# Where a comment begins

A line has a comment where a remark stands at its start, behind white space and an at sign at most,
or else behind the first ampersand that a remark follows. The pattern of comments looks for both at
once, and for the second one from the last solid character in front of the ampersand on. That the
search finds the first ampersand all the same is seen from the places that it passes over
(`tokensBetween_first`): an earlier ampersand with a remark behind it would have been found from a
place further to the front.
-/

namespace BatchLens

open Pattern

namespace Grammar

/-- Whether a piece of text opens a remark in front of another one: two colons, or the command for
it in any case if no further character of a word follows. -/
inductive OpensRemark (opening behind : Text) : Prop
  | colons (areColons : opening = "::".toList)
  | command (isCommand : Text.sameIgnoringAsciiCase opening "rem".toList = true)
      (ends : ∀ c ∈ behind.head?, Unicode.isWordChar c = false)

/-- Whether a text begins with a remark. -/
def BeginsRemark (text : Text) : Prop :=
  ∃ opening behind, text = opening ++ behind ∧ OpensRemark opening behind

/-- A text cut in front of its first solid character, where a remark begins, with an at sign in
front of it or without. -/
structure LeadingRemark (before behind : Text) : Prop where
  areSpaces : ∀ c ∈ before, Unicode.isWhiteSpace c = true
  solid : ∃ c ∈ behind.head?, Unicode.isWhiteSpace c = false
  begins : BeginsRemark (Text.dropLeading '@' behind)

/-- A text cut in front of an ampersand that a remark follows, with something solid in front. -/
structure TrailingRemark (before behind : Text) : Prop where
  solid : ∃ c ∈ before, Unicode.isWhiteSpace c = false
  ampersand : ∃ gap rest, behind = '&' :: (gap ++ rest) ∧
    (∀ c ∈ gap, Unicode.isWhiteSpace c = true) ∧ BeginsRemark rest

/-! ## What opens a remark -/

section

variable {text before taken opening behind : Text} {token : Option ByteRange}

theorem isWordChar_of_isCommand
    (isCommand : Text.sameIgnoringAsciiCase opening "rem".toList = true) :
    opening ≠ [] ∧ ∀ c ∈ opening, Unicode.isWordChar c = true := by
  have small : Text.asciiLower opening = "rem".toList := beq_iff_eq.mp isCommand
  constructor
  · rintro rfl
    exact absurd small (by decide)
  · intro c isIn
    have areWordChars : "rem".toList.all Unicode.isWordChar = true := by decide +kernel
    have isLetter : c.toLower ∈ Text.asciiLower opening := List.mem_map_of_mem isIn
    rw [small] at isLetter
    rw [← Unicode.isWordChar_toLower]
    exact List.all_eq_true.mp areWordChars _ isLetter

theorem OpensRemark.exists_head (opens : OpensRemark opening behind) :
    ∃ c others, opening = c :: others ∧ Unicode.isWhiteSpace c = false ∧ c ≠ '@' := by
  cases opens with
  | colons areColons => exact ⟨':', [':'], areColons, by decide⟩
  | command isCommand =>
      rcases isWordChar_of_isCommand isCommand with ⟨nonempty, areWordChars⟩
      rcases List.exists_cons_of_ne_nil nonempty with ⟨c, others, rfl⟩
      have isWord := areWordChars c List.mem_cons_self
      refine ⟨c, others, rfl, Unicode.isWhiteSpace_of_isWordChar isWord, ?_⟩
      rintro rfl
      exact absurd isWord (by decide +kernel)

theorem takes_remark :
    remark.Takes before taken behind token ↔ OpensRemark taken behind ∧ token = none := by
  have folds : taken.map Unicode.foldToAscii = "rem".toList ↔
      Text.sameIgnoringAsciiCase taken "rem".toList = true := by
    rw [Unicode.map_foldToAscii_eq_iff (by simp)]
    exact beq_iff_eq.symm
  have ends (isCommand : Text.sameIgnoringAsciiCase taken "rem".toList = true) :
      Text.BordersWord (before ++ taken) behind ↔
        ∀ c ∈ behind.head?, Unicode.isWordChar c = false := by
    rcases isWordChar_of_isCommand isCommand with ⟨nonempty, areWordChars⟩
    exact Text.bordersWord_iff nonempty areWordChars
  constructor
  · intro takes
    rcases takes_orElse.mp takes with isWord | isLiteral
    · rcases takes_append.mp isWord with ⟨word, nothing, _, _, rfl, takesWord, takesEnd, rfl⟩
      obtain ⟨isCommand, rfl⟩ := takes_word.mp takesWord
      obtain ⟨borders, rfl, rfl⟩ := takes_wordBoundary.mp takesEnd
      rw [List.append_nil] at folds ends ⊢
      have isCommand := folds.mp isCommand
      exact ⟨.command isCommand ((ends isCommand).mp borders), rfl⟩
    · obtain ⟨areColons, rfl⟩ := takes_literal.mp isLiteral
      exact ⟨.colons areColons, rfl⟩
  · rintro ⟨areColons | ⟨isCommand, noWord⟩, rfl⟩
    · exact takes_orElse.mpr (.inr (takes_literal.mpr ⟨areColons, rfl⟩))
    · apply takes_orElse.mpr
      left
      refine takes_append.mpr ⟨taken, [], none, none, by simp, ?_, ?_, rfl⟩
      · exact takes_word.mpr ⟨folds.mpr isCommand, rfl⟩
      · exact takes_wordBoundary.mpr ⟨(ends isCommand).mpr noWord, rfl, rfl⟩

end

/-! ## The two kinds of comments -/

/-- A remark over the whole line. -/
def leadingComment : Pattern :=
  textStart ++ many isSpace ++ token (maybe (char '@') ++ remark ++ lineRest)

/-- A remark behind a command. -/
def trailingComment : Pattern :=
  one isSolid ++ many isSpace ++ token (char '&' ++ many isSpace ++ remark ++ lineRest)

theorem comment_eq : comment = (leadingComment <|> trailingComment) := rfl

section

variable {before taken behind : Text} {token : Option ByteRange}

theorem of_takes_leadingComment (takes : leadingComment.Takes before taken behind token) :
    before = [] ∧ ∃ spaces body, taken = spaces ++ body ∧ LeadingRemark spaces (body ++ behind) ∧
      token = some ⟨spaces.byteLen, taken.byteLen⟩ := by
  simp only [leadingComment, ↓Char.isValue, lineRest, takes_append, takes_textStart, takes_many,
    exists_and_left, ↓existsAndEq, and_true, Option.or_none, List.nil_append, exists_eq_left',
    takes_token, takes_maybe, takes_char, List.append_assoc, takes_remark, true_and,
    Text.byteLen_append, Option.or_some, Option.getD_none] at takes
  rcases takes with
    ⟨spaces, _, rest, sign, opening, rfl, ⟨rfl, areSpaces⟩, ⟨⟨isSign, opens⟩, _⟩, rfl⟩
  rcases opens.exists_head with ⟨c, others, rfl, solid, notSign⟩
  have begins : BeginsRemark (c :: others ++ rest ++ behind) :=
    ⟨c :: others, rest ++ behind, List.append_assoc .., opens⟩
  refine ⟨rfl, spaces, sign ++ (c :: others) ++ rest, by simp, ⟨areSpaces, ?_, ?_⟩,
    by simp [Nat.add_assoc]⟩
  · rcases isSign with ⟨rfl, _⟩ | ⟨rfl, _⟩
    · exact ⟨'@', rfl, rfl⟩
    · exact ⟨c, rfl, solid⟩
  · rcases isSign with ⟨rfl, _⟩ | ⟨rfl, _⟩
    · exact begins
    · simpa [Text.dropLeading, notSign] using begins

theorem exists_takes_leadingComment (leads : LeadingRemark before behind) :
    ∃ body rest token, behind = body ++ rest ∧
      leadingComment.Takes [] (before ++ body) rest token := by
  have signed : ∃ sign, (sign = ['@'] ∨ sign = []) ∧
      behind = sign ++ Text.dropLeading '@' behind := by
    cases behind with
    | nil => exact ⟨[], .inr rfl, rfl⟩
    | cons c others =>
        by_cases isSign : c = '@'
        · exact ⟨['@'], .inl rfl, by simp [isSign, Text.dropLeading]⟩
        · exact ⟨[], .inr rfl, by simp [isSign, Text.dropLeading]⟩
  rcases signed with ⟨sign, isSign, cut⟩
  rcases leads.begins with ⟨opening, rest, parts, opens⟩
  rw [parts, ← List.append_assoc] at cut
  refine ⟨sign ++ opening, rest, _, cut, takes_append.mpr ⟨before, sign ++ opening, none, _, rfl,
    ?_, takes_token.mpr ⟨⟨none, ?_⟩, rfl⟩, rfl⟩⟩
  · apply takes_append.mpr
    exact ⟨[], before, none, none, rfl, takes_textStart.mpr ⟨rfl, rfl, rfl⟩,
      takes_many.mpr ⟨leads.areSpaces, rfl⟩, rfl⟩
  · apply takes_append.mpr
    refine ⟨sign ++ opening, [], none, none, by simp, takes_append.mpr ?_,
      takes_many.mpr ⟨by simp, rfl⟩, rfl⟩
    refine ⟨sign, opening, none, none, rfl, takes_maybe.mpr ?_, takes_remark.mpr ⟨opens, rfl⟩, rfl⟩
    rcases isSign with rfl | rfl
    · exact .inl (takes_char.mpr ⟨rfl, rfl⟩)
    · exact .inr ⟨rfl, rfl⟩

theorem of_takes_trailingComment (takes : trailingComment.Takes before taken behind token) :
    ∃ first spaces body, taken = first :: spaces ++ body ∧
      (∀ c ∈ spaces, Unicode.isWhiteSpace c = true) ∧
      TrailingRemark (before ++ first :: spaces) (body ++ behind) ∧
      token = some ⟨(before ++ first :: spaces).byteLen, (before ++ taken).byteLen⟩ := by
  simp only [trailingComment, ↓Char.isValue, lineRest, takes_append, takes_one, takes_many,
    exists_and_left, ↓existsAndEq, and_true, Option.or_none, exists_and_right, List.cons_append,
    List.nil_append, takes_token, takes_char, List.append_assoc, true_and, takes_remark,
    Text.byteLen_append, Option.or_some, Option.getD_none, Text.byteLen_cons] at takes
  rcases takes with
    ⟨rest, opening, gap, spaces, first, rfl, ⟨solid, areSpaces⟩, ⟨⟨areGap, opens⟩, _⟩, rfl⟩
  refine ⟨first, spaces, '&' :: (gap ++ (opening ++ rest)), by simp, areSpaces, ⟨?_, ?_⟩,
    by simp [Nat.add_assoc]⟩
  · exact ⟨first, by simp, by simpa [isSolid] using solid⟩
  · exact ⟨gap, opening ++ rest ++ behind, by simp, areGap, opening, rest ++ behind, by simp, opens⟩

theorem exists_takes_trailingComment (trails : TrailingRemark before behind) :
    ∃ passed first spaces body rest token, before = passed ++ first :: spaces ∧
      behind = body ++ rest ∧
      trailingComment.Takes passed (first :: spaces ++ body) rest token := by
  rcases trails.solid with ⟨c, isIn, solid⟩
  rcases Text.exists_last_of_mem isIn solid with ⟨passed, first, spaces, rfl, isSolid, areSpaces⟩
  rcases trails.ampersand with ⟨gap, _, rfl, areGap, opening, rest, rfl, opens⟩
  refine ⟨passed, first, spaces, '&' :: gap ++ opening, rest, _, rfl, by simp, takes_append.mpr
    ⟨first :: spaces, '&' :: gap ++ opening, none, _, rfl, ?_, takes_token.mpr ⟨⟨none, ?_⟩, rfl⟩,
      rfl⟩⟩
  · apply takes_append.mpr
    refine ⟨[first], spaces, none, none, rfl, takes_one.mpr ⟨first, ?_, rfl, rfl⟩,
      takes_many.mpr ⟨areSpaces, rfl⟩, rfl⟩
    simpa [Grammar.isSolid] using isSolid
  · apply takes_append.mpr
    refine ⟨'&' :: gap ++ opening, [], none, none, by simp, takes_append.mpr ?_,
      takes_many.mpr ⟨by simp, rfl⟩, rfl⟩
    refine ⟨'&' :: gap, opening, none, none, rfl, takes_append.mpr ?_,
      takes_remark.mpr ⟨opens, rfl⟩, rfl⟩
    exact ⟨['&'], gap, none, none, rfl, takes_char.mpr ⟨rfl, rfl⟩, takes_many.mpr ⟨areGap, rfl⟩,
      rfl⟩

/-- A text has at most one leading remark. -/
theorem LeadingRemark.cut_unique {front back : Text} (leads : LeadingRemark before behind)
    (leads' : LeadingRemark front back) (same : before ++ behind = front ++ back) :
    before = front ∧ behind = back :=
  solid_cut_unique same leads.areSpaces leads.solid leads'.areSpaces leads'.solid

end

end Grammar

namespace Classification

open Grammar

variable {text before behind : Text} {comment span : Span}

/-- Whether the comment of a text begins where the text is cut. -/
inductive BeginsComment (before behind : Text) : Prop
  | leading (remark : LeadingRemark before behind)
  | trailing (remark : TrailingRemark before behind)
      (noneLeads : ∀ front back, before ++ behind = front ++ back → ¬LeadingRemark front back)
      (isFirst : ∀ front back, before ++ behind = front ++ back → TrailingRemark front back →
        before.byteLen ≤ front.byteLen)

/-! ## The first place of a comment -/

theorem comment?_first (text : Text) :
    (comment? text = none ∧ Grammar.comment.PassesOver [] text []) ∨
      ∃ passed taken later token, text = passed ++ (taken ++ later) ∧
        Grammar.comment.PassesOver [] passed (taken ++ later) ∧
        Grammar.comment.Prefers passed taken later token ∧
        comment? text = some (Span.ofRange .comment (reported passed taken token)) := by
  have tokens : (Grammar.pattern .comment).findAll text =
      Grammar.comment.tokensBetween 0 [] text :=
    ReportsToEnd.findAll_eq (Grammar.reportsToEnd_pattern (by decide)) text
  rw [comment?, candidates, tokens, List.head?_map]
  rcases tokensBetween_first Grammar.comment text (Nat.zero_le (Text.byteLen [])) with
    ⟨nothing, passes⟩ | ⟨passed, taken, later, token, cut, passes, prefers, isFirst⟩
  · exact .inl ⟨by rw [nothing]; rfl, passes⟩
  · exact .inr ⟨passed, taken, later, token, cut, passes, prefers, by rw [isFirst]; rfl⟩

/-- An earlier ampersand stands in front of the last solid character before a later one. -/
theorem exists_passed_of_lt {passed spaces front back : Text} {first : Char}
    (cut : passed ++ first :: spaces ++ behind = front ++ back)
    (areSpaces : ∀ c ∈ spaces, Unicode.isWhiteSpace c = true) (trails : TrailingRemark front back)
    (isEarlier : front.byteLen < (passed ++ first :: spaces).byteLen) :
    ∃ between, passed = front ++ between := by
  rcases trails.ampersand with ⟨gap, rest, rfl, _⟩
  rcases Text.cut_of_byteLen_le cut.symm (Nat.le_of_lt isEarlier) with ⟨skipped, parts, backEq⟩
  cases skipped with
  | nil =>
      rw [parts, List.append_nil] at isEarlier
      exact absurd isEarlier (Nat.lt_irrefl _)
  | cons c others =>
      obtain rfl : c = '&' := (List.cons.inj backEq).1.symm
      rcases List.append_eq_append_iff.mp parts with ⟨between, rfl, tail⟩ | ⟨between, rfl, tail⟩
      · cases between with
        | nil => exact ⟨[], by simp⟩
        | cons d more =>
            have isSpace := areSpaces '&' (by simp [(List.cons.inj tail).2])
            exact absurd isSpace (by decide)
      · exact ⟨between, rfl⟩

theorem exists_beginsComment (found : comment? text = some comment) :
    ∃ before behind, text = before ++ behind ∧ BeginsComment before behind ∧
      comment.start = before.byteLen := by
  rcases comment?_first text with
    ⟨nothing, _⟩ | ⟨passed, taken, later, token, rfl, passes, prefers, isFirst⟩
  · exact absurd found (by simp [nothing])
  obtain rfl := Option.some.inj (found.symm.trans isFirst)
  rw [comment_eq] at passes prefers
  rcases prefers.of_orElse with isLeading | ⟨notLeading, isTrailing⟩
  · rcases of_takes_leadingComment isLeading.takes with ⟨rfl, spaces, body, rfl, remark, rfl⟩
    exact ⟨spaces, body ++ later, by simp, .leading remark, rfl⟩
  · rcases of_takes_trailingComment isTrailing.takes with
      ⟨first, spaces, body, rfl, areSpaces, remark, rfl⟩
    refine ⟨passed ++ first :: spaces, body ++ later, by simp, .trailing remark ?_ ?_, rfl⟩
    · -- A leading remark is found at the start of the text, and preferred there.
      intro front back cut leads
      rcases exists_takes_leadingComment leads with ⟨body', rest, token, rfl, takes⟩
      by_cases atStart : passed = []
      · subst atStart
        exact not_takes_of_not_found notLeading (by simpa using cut) takes
      · apply passes [] passed rfl atStart _ _ _ _ (takes_orElse.mpr (.inl takes))
        simpa using cut
    · intro front back cut trails
      rw [← Nat.not_lt]
      intro isEarlier
      rcases exists_passed_of_lt cut areSpaces trails isEarlier with ⟨between, rfl⟩
      rcases exists_takes_trailingComment trails with
        ⟨passed', first', spaces', body', rest, token, rfl, rfl, takes⟩
      apply passes passed' (first' :: spaces' ++ between) _ _ _ _ _ _
        (takes_orElse.mpr (.inr takes))
      · simp
      · simp
      · simpa using cut

theorem exists_comment?_of_takes {taken later : Text} {token : Option ByteRange}
    (takes : Grammar.comment.Takes before taken later token) (nonempty : taken ++ later ≠ []) :
    ∃ comment, comment? (before ++ (taken ++ later)) = some comment := by
  rcases comment?_first (before ++ (taken ++ later)) with ⟨_, passes⟩ | ⟨_, _, _, _, _, _, _, found⟩
  · apply absurd takes
    apply passes before (taken ++ later) rfl nonempty
    rw [List.append_nil]
  · exact ⟨_, found⟩

theorem exists_comment?_of_leads (leads : LeadingRemark before behind) :
    ∃ comment, comment? (before ++ behind) = some comment := by
  rcases exists_takes_leadingComment leads with ⟨body, rest, token, rfl, takes⟩
  rw [← List.append_assoc]
  apply exists_comment?_of_takes (takes_orElse.mpr (.inl takes))
  intro nothing
  rcases leads.solid with ⟨c, isFirst, _⟩
  simp only [List.append_eq_nil_iff] at nothing
  simp [nothing] at isFirst

theorem exists_comment?_of_trails (trails : TrailingRemark before behind) :
    ∃ comment, comment? (before ++ behind) = some comment := by
  rcases exists_takes_trailingComment trails with
    ⟨passed, first, spaces, body, rest, token, rfl, rfl, takes⟩
  have found := exists_comment?_of_takes (takes_orElse.mpr (.inr takes)) (by simp)
  simpa using found

/-! ## The comment of a line -/

theorem filter_classify_comment (text : Text) :
    (classify text).filter (fun span => span.category == .comment) = (comment? text).toList := by
  have areComments : ∀ span ∈ (comment? text).toList, span.category = .comment := by
    intro span isComment
    exact category_of_comment? (Option.mem_toList.mp isComment)
  rcases classify_cases text with ⟨comment, found, _, alone⟩ | ⟨_, spans⟩
  · rw [found] at areComments
    rw [alone, found, Option.toList_some, List.filter_eq_self]
    simpa using areComments
  · have noneCompetes : (accepted text (comment? text).toList Category.byPrecedence).filter
        (fun span => span.category == .comment) = [] := by
      rw [List.filter_eq_nil_iff]
      intro span isAccepted isComment
      have competes := (category_mem_of_mem_accepted isAccepted).1
      rw [beq_iff_eq.mp isComment] at competes
      exact absurd competes (by decide)
    have noneIsVariable : (candidates text .identifier).filter
        (fun span => span.category == .comment) = [] := by
      rw [List.filter_eq_nil_iff]
      intro span isVariable
      simp [category_of_mem_candidates isVariable]
    rw [spans, List.filter_append, List.filter_append, noneCompetes, noneIsVariable,
      List.append_nil, List.append_nil, List.filter_eq_self]
    simpa using areComments

/-- The comment of a line goes from where it begins to the end of the line. -/
theorem exists_cut_of_comment? (oneLine : '\n' ∉ text) (found : comment? text = some comment) :
    ∃ before behind, text = before ++ behind ∧ BeginsComment before behind ∧
      comment = ⟨before.byteLen, behind.byteLen, .comment⟩ := by
  rcases exists_cutAtComment oneLine found with ⟨_, _, cut, atComment⟩
  have stop := atComment.stop_eq
  have isComment := category_of_comment? found
  rw [← cut] at stop
  rcases exists_beginsComment found with ⟨before, behind, rfl, begins, start⟩
  refine ⟨before, behind, rfl, begins, ?_⟩
  rcases comment with ⟨_, length, category⟩
  simp only [Span.stop, Text.byteLen_append] at stop start isComment
  subst start isComment
  rw [Nat.add_left_cancel stop]

theorem comment?_of_leads (oneLine : '\n' ∉ before ++ behind)
    (leads : LeadingRemark before behind) :
    comment? (before ++ behind) = some ⟨before.byteLen, behind.byteLen, .comment⟩ := by
  rcases exists_comment?_of_leads leads with ⟨comment, found⟩
  rcases exists_cut_of_comment? oneLine found with ⟨front, back, cut, begins, rfl⟩
  cases begins with
  | leading remark =>
      obtain ⟨rfl, rfl⟩ := leads.cut_unique remark cut
      exact found
  | trailing _ noneLeads => exact absurd leads (noneLeads before behind cut.symm)

theorem stop_le_of_comment (isComment : comment ∈ classify text)
    (category : comment.category = .comment) (stop : comment.stop = text.byteLen)
    (isSpan : span ∈ classify text) (isOther : span ≠ comment)
    (noVariable : span.category ≠ .identifier) : span.stop ≤ comment.start := by
  have apart : comment.intersects span = false := by
    apply (classify_pairwise text).forall
    · exact List.mem_filter.mpr ⟨isComment, by simp [category]⟩
    · exact List.mem_filter.mpr ⟨isSpan, by simp [noVariable]⟩
    · exact isOther.symm
  have isToken := mem_candidates_category isSpan
  have nonempty := start_lt_stop_of_mem_candidates isToken
  have inside := stop_le_of_mem_candidates isToken
  rw [Bool.eq_false_iff, Ne, Span.intersects_iff] at apart
  omega

end Classification

/-- Behind the start of a comment that goes on to the end of its line, nothing is completed. -/
theorem Document.complete?_of_comment {document : Document} {environment : Environment}
    {settings : CompletionSettings} {caret : Nat} {comment : Span}
    (isSpan : comment ∈ classify (document.line (document.lineOfOffset caret)))
    (category : comment.category = .comment)
    (stop : comment.stop = (document.line (document.lineOfOffset caret)).byteLen)
    (isInside : comment.start < document.caretColumn caret) :
    document.complete? environment settings caret = none := by
  apply complete?_of_not_allowsCompletion
  intro allows
  have isOutside := allows.isOutside comment isSpan (.inl category)
  have column : document.caretColumn caret ≤ comment.stop := by
    rw [stop]
    exact Nat.min_le_right _ _
  simp [Span.containsCaret, isInside, column] at isOutside

open Classification Grammar in
/-- A line has one comment at most. Where a remark leads the line, this is the remark; or else it
begins at the first ampersand with a remark behind it. It goes on to the end of the line, all other
spans but those of variable names end in front of it, and nothing is completed inside it. -/
theorem classify_comment {text : Text} (oneLine : '\n' ∉ text) :
    let comments := (classify text).filter fun span => span.category == .comment
    (∀ before behind, text = before ++ behind → LeadingRemark before behind →
      comments = [⟨before.byteLen, behind.byteLen, .comment⟩]) ∧
    ((∀ before behind, text = before ++ behind → ¬LeadingRemark before behind) →
      ((∃ before behind, text = before ++ behind ∧ TrailingRemark before behind) →
        ∃ before behind, text = before ++ behind ∧ TrailingRemark before behind ∧
          (∀ front back, text = front ++ back → TrailingRemark front back →
            before.byteLen ≤ front.byteLen) ∧
          comments = [⟨before.byteLen, behind.byteLen, .comment⟩]) ∧
      ((∀ before behind, text = before ++ behind → ¬TrailingRemark before behind) →
        comments = [])) ∧
    comments.length ≤ 1 ∧
    ∀ comment ∈ comments,
      (∀ span ∈ classify text, span ≠ comment → span.category ≠ .identifier →
        span.stop ≤ comment.start) ∧
      ∀ (environment : Environment) (settings : CompletionSettings) (document : Document)
        (caret : Nat), document.line (document.lineOfOffset caret) = text →
        comment.start < document.caretColumn caret →
        document.complete? environment settings caret = none := by
  intro comments
  have areComments : comments = (comment? text).toList := filter_classify_comment text
  refine ⟨?_, fun noneLeads => ⟨?_, ?_⟩, ?_, ?_⟩
  · rintro before behind rfl leads
    rw [areComments, comment?_of_leads oneLine leads, Option.toList_some]
  · rintro ⟨front, back, rfl, trails⟩
    rcases exists_comment?_of_trails trails with ⟨comment, found⟩
    rcases exists_cut_of_comment? oneLine found with ⟨before, behind, cut, begins, rfl⟩
    cases begins with
    | leading remark => exact absurd remark (noneLeads before behind cut)
    | trailing remark _ isFirst =>
        rw [← cut] at isFirst
        exact ⟨before, behind, cut, remark, isFirst, by rw [areComments, found, Option.toList_some]⟩
  · intro noneTrails
    rw [areComments, Option.toList_eq_nil_iff]
    cases found : comment? text with
    | none => rfl
    | some comment =>
        rcases exists_beginsComment found with ⟨before, behind, cut, leading | trailing, _⟩
        · exact absurd leading (noneLeads before behind cut)
        · exact absurd trailing (noneTrails before behind cut)
  · rw [areComments]
    cases comment? text <;> simp
  · intro comment isComment
    rcases List.mem_filter.mp isComment with ⟨isSpan, category⟩
    have category : comment.category = .comment := beq_iff_eq.mp category
    have found := comment?_of_mem_classify isSpan category
    have stop : comment.stop = text.byteLen := by
      rcases exists_cutAtComment oneLine found with ⟨before, behind, rfl, cut⟩
      exact cut.stop_eq
    constructor
    · intro span isOther different noVariable
      exact stop_le_of_comment isSpan category stop isOther different noVariable
    · rintro environment settings document caret rfl isInside
      exact Document.complete?_of_comment isSpan category stop isInside

open Grammar in
/-- A remark that is silenced and indented, with a second one behind an ampersand. -/
theorem classify_comment_of_silenced_remark :
    let text := "  @REM x & rem y".toList
    '\n' ∉ text ∧ LeadingRemark "  ".toList "@REM x & rem y".toList ∧
      (classify text).filter (fun span => span.category == .comment) = [⟨2, 14, .comment⟩] := by
  have oneLine : '\n' ∉ "  @REM x & rem y".toList := by decide
  have areSpaces : ∀ c ∈ "  ".toList, Unicode.isWhiteSpace c = true :=
    List.all_eq_true.mp (by decide)
  have noWord : ∀ c ∈ " x & rem y".toList.head?, Unicode.isWordChar c = false := by
    rintro _ ⟨⟩
    decide +kernel
  have leads : LeadingRemark "  ".toList "@REM x & rem y".toList :=
    ⟨areSpaces, ⟨'@', rfl, rfl⟩, "REM".toList, " x & rem y".toList, rfl,
      .command (by decide) noWord⟩
  exact ⟨oneLine, leads, (classify_comment oneLine).1 _ _ rfl leads⟩

end BatchLens
