import BatchLens.Proofs.Batch.Overrun
import BatchLens.Proofs.Batch.Precedence

/-!
# The text in front of a comment

A comment that does not begin a line leaves the text in front of it to the other categories
(`classify_before_comment`). Each pattern is still tried on the whole line, though, and a token that
runs into the comment is left out as a whole. So the text in front of the comment is classified as
if it stood alone as long as nothing runs into the comment: an echoed text, a quoted text, a double
ampersand, a label or the target of a jump.
-/

namespace BatchLens

open Pattern

namespace Classification

variable {text before behind : Text} {comment span : Span} {category : Category}

/-- The spans of the categories that compete for a text. -/
def competing (text : Text) : List Span :=
  (classify text).filter fun span => Category.byPrecedence.contains span.category

/-! ## The comment -/

/-- A comment goes on to the end of its line. -/
theorem comment_goesOnWhile : Grammar.comment.GoesOnWhile Grammar.isInLine := by
  have rest : Grammar.lineRest.GoesOnWhile Grammar.isInLine := goesOnWhile_many Grammar.isInLine
  exact (rest.append.marked.append).orElse (rest.append.marked.append)

theorem comment?_of_mem_classify (isSpan : span ∈ classify text)
    (isComment : span.category = .comment) : comment? text = some span := by
  rcases classify_cases text with ⟨comment, found, _, alone⟩ | ⟨_, spans⟩
  · rw [alone] at isSpan
    rw [List.mem_singleton.mp isSpan, found]
  · rw [spans] at isSpan
    rcases List.mem_append.mp isSpan with competes | isIdentifier
    · rcases List.mem_append.mp competes with isFirst | isAccepted
      · exact Option.mem_toList.mp isFirst
      · have isCategory := (category_mem_of_mem_accepted isAccepted).1
        rw [isComment] at isCategory
        exact absurd isCategory (by decide)
    · rw [category_of_mem_candidates isIdentifier] at isComment
      exact absurd isComment (by decide)

/-- A text that is cut in front of its comment, which takes the rest: there is only white space in
front of it, or it begins with an ampersand. -/
structure CutAtComment (before behind : Text) (comment : Span) : Prop where
  found : comment? (before ++ behind) = some comment
  start_eq : comment.start = before.byteLen
  stop_eq : comment.stop = (before ++ behind).byteLen
  lead : (∀ c ∈ before, Grammar.isSpace c = true) ∨ behind.head? = some '&'

theorem exists_cutAtComment (oneLine : '\n' ∉ text) (found : comment? text = some comment) :
    ∃ before behind, text = before ++ behind ∧ CutAtComment before behind comment := by
  rcases exists_prefers_of_mem_candidates (mem_candidates_of_comment? found) with
    ⟨front, taken, rest, token, rfl, prefers, rfl⟩
  have nothing : rest = [] := by
    cases rest with
    | nil => rfl
    | cons c others =>
        have stops := comment_goesOnWhile _ _ prefers c rfl
        have isFeed : c = '\n' := by simpa [Grammar.isInLine] using stops
        exact absurd (by simp [isFeed]) oneLine
  subst nothing
  rcases Grammar.of_takes_comment prefers.takes with
    ⟨rfl, spaces, sign, opening, remark, rfl, areSpaces, _, _, rfl⟩ |
    ⟨first, spaces, remark, rfl, _, _, rfl⟩
  · refine ⟨spaces, sign ++ opening ++ remark, by simp, ⟨?_, rfl, ?_, .inl areSpaces⟩⟩
    · simpa using found
    · simp [Span.stop, Span.ofRange, reported]
  · refine ⟨front ++ first :: spaces, '&' :: remark, by simp, ⟨?_, rfl, ?_, .inr rfl⟩⟩
    · simpa using found
    · simp [Span.stop, Span.ofRange, reported]

section

variable (cut : CutAtComment before behind comment)
include cut

/-- A token of the whole text overlaps the comment if it ends behind the cut. -/
theorem CutAtComment.intersects_iff (isToken : span ∈ candidates (before ++ behind) category) :
    comment.intersects span = true ↔ before.byteLen < span.stop := by
  have nonempty := start_lt_stop_of_mem_candidates isToken
  have inside := stop_le_of_mem_candidates isToken
  rw [Span.intersects_iff, cut.start_eq, cut.stop_eq]
  omega

/-- The whole text has no other comment. -/
theorem CutAtComment.candidates_comment : candidates (before ++ behind) .comment = [comment] := by
  rcases List.head?_eq_some_iff.mp cut.found with ⟨others, all⟩
  have ordered := candidates_pairwise (before ++ behind) .comment
  rw [all] at ordered ⊢
  cases others with
  | nil => rfl
  | cons other more =>
      have isToken : other ∈ candidates (before ++ behind) .comment := by simp [all]
      have behindComment := (List.pairwise_cons.mp ordered).1 other List.mem_cons_self
      have nonempty := start_lt_stop_of_mem_candidates isToken
      have inside := stop_le_of_mem_candidates isToken
      rw [cut.stop_eq] at behindComment
      omega

end

/-- What overlaps the comment is left out by where it ends. -/
theorem CutAtComment.filter_candidates (cut : CutAtComment before behind comment)
    (category : Category) :
    (candidates (before ++ behind) category).filter (!comment.intersects ·) =
      (((Grammar.pattern category).findAll (before ++ behind)).filter fun range =>
        range.stop ≤ before.byteLen).map (Span.ofRange category) := by
  rw [candidates, List.filter_map]
  congr 1
  apply List.filter_congr
  intro range found
  have isToken : Span.ofRange category range ∈ candidates (before ++ behind) category :=
    List.mem_map_of_mem found
  have overlaps := cut.intersects_iff isToken
  rw [Span.stop_ofRange category (Nat.le_of_lt (start_lt_stop_of_mem_findAll found))] at overlaps
  rw [Function.comp_apply, Bool.eq_iff_iff, Bool.not_eq_true', decide_eq_true_iff,
    Bool.eq_false_iff, Ne, overlaps, Nat.not_lt]

/-- Every token of a text reaches beyond the white space at its front. -/
theorem byteLen_lt_stop_of_isSpace (notVariable : category ≠ .identifier)
    (areSpaces : ∀ c ∈ before, Grammar.isSpace c = true)
    (isToken : span ∈ candidates (before ++ behind) category) : before.byteLen < span.stop := by
  rcases exists_prefers_of_mem_candidates isToken with
    ⟨front, taken, rest, token, cut, prefers, rfl⟩
  have ends := Grammar.reportsToEnd_pattern notVariable prefers.takes
  rw [Span.stop_ofRange category (Nat.le_of_lt ends.1), ends.2, ← Nat.not_le]
  intro inside
  rcases Text.cut_of_byteLen_le cut.symm inside with ⟨left, rfl, _⟩
  rcases Grammar.exists_solid_of_takes notVariable prefers.takes with ⟨c, isIn, solid⟩
  have space := areSpaces c (by simp [isIn])
  rw [Grammar.isSolid] at solid
  rw [Grammar.isSpace] at space
  simp [space] at solid

/-- Where there is only white space in front of the comment, no token is there. -/
theorem CutAtComment.candidates_of_isSpace (cut : CutAtComment before behind comment)
    (notVariable : category ≠ .identifier) (areSpaces : ∀ c ∈ before, Grammar.isSpace c = true) :
    candidates before category = [] ∧
      (candidates (before ++ behind) category).filter (!comment.intersects ·) = [] := by
  constructor
  · rw [List.eq_nil_iff_forall_not_mem]
    intro span isToken
    have inside := stop_le_of_mem_candidates isToken
    rw [← List.append_nil before] at isToken
    exact Nat.not_lt.mpr inside (byteLen_lt_stop_of_isSpace notVariable areSpaces isToken)
  · rw [List.filter_eq_nil_iff]
    intro span isToken
    have beyond := byteLen_lt_stop_of_isSpace notVariable areSpaces isToken
    simp [(cut.intersects_iff isToken).mpr beyond]

/-- A token that runs over the end of a text into an ampersand is none of a keyword or a switch,
and lies on both sides of that end. -/
theorem runsOver_of_overruns {passed kept excess rest : Text} {token : Option ByteRange}
    (notVariable : category ≠ .identifier)
    (overruns : (Grammar.pattern category).Overruns passed kept excess rest token)
    (ampersand : excess.head? = some '&') :
    category ≠ .keyword ∧ category ≠ .parameter ∧
      (Span.ofRange category (reported passed (kept ++ excess) token)).start <
        (passed ++ kept).byteLen ∧
      (passed ++ kept).byteLen <
        (Span.ofRange category (reported passed (kept ++ excess) token)).stop := by
  have takesAmpersand : '&' ∈ kept ++ excess :=
    List.mem_append_right kept (List.mem_of_mem_head? ampersand)
  refine ⟨?_, ?_, Grammar.start_lt_of_overruns notVariable overruns ampersand, ?_⟩
  · rintro rfl
    exact Grammar.not_takes_ampersand (.inl rfl) overruns.takes takesAmpersand
  · rintro rfl
    exact Grammar.not_takes_ampersand (.inr rfl) overruns.takes takesAmpersand
  · have ends := Grammar.reportsToEnd_pattern notVariable overruns.takes
    have positive := Text.byteLen_pos overruns.excess_ne_nil
    rw [Span.stop_ofRange category (Nat.le_of_lt ends.1), ends.2, ← List.append_assoc,
      Text.byteLen_append _ excess]
    omega

/-- Of the tokens in front of the comment, the text in front of it alone has those that do not reach
into the comment; and if it has others, which are no keywords and no switches, then a token of the
whole text runs into the comment. -/
theorem CutAtComment.exists_candidates (cut : CutAtComment before behind comment)
    (notVariable : category ≠ .identifier) :
    ∃ new, candidates before category =
        (candidates (before ++ behind) category).filter (!comment.intersects ·) ++ new ∧
      (new ≠ [] → category ≠ .keyword ∧ category ≠ .parameter ∧
        ∃ token ∈ candidates (before ++ behind) category,
          token.start < before.byteLen ∧ before.byteLen < token.stop) := by
  rcases cut.lead with areSpaces | ampersand
  · rcases cut.candidates_of_isSpace notVariable areSpaces with ⟨noToken, noneIsKept⟩
    exact ⟨[], by rw [noToken, noneIsKept, List.append_nil], by simp⟩
  · have noWord : behind.head?.any Unicode.isWordChar = false := by
      rw [ampersand]
      decide
    rcases findAll_cutOff (Grammar.reportsToEnd_pattern notVariable) noWord before with
      ⟨new, found, onlyOver⟩
    refine ⟨new.map (Span.ofRange category), ?_, ?_⟩
    · rw [cut.filter_candidates, ← List.map_append, ← found]
      rfl
    · intro isNew
      rcases onlyOver (by simpa using isNew) with
        ⟨passed, kept, excess, rest, token, rfl, rfl, overruns, isToken⟩
      rw [List.head?_append_of_ne_nil _ overruns.excess_ne_nil] at ampersand
      rcases runsOver_of_overruns notVariable overruns ampersand with
        ⟨noKeyword, noParameter, runsOver⟩
      exact ⟨noKeyword, noParameter, _, List.mem_map_of_mem isToken, runsOver⟩

theorem CutAtComment.not_intersects (cut : CutAtComment before behind comment)
    (isToken : span ∈ candidates before category) : comment.intersects span = false := by
  rw [Span.intersects_comm]
  apply Span.intersects_eq_false_of_stop_le
  rw [cut.start_eq]
  exact stop_le_of_mem_candidates isToken

/-- The text in front of the comment has no comment of its own. -/
theorem CutAtComment.comment?_before (cut : CutAtComment before behind comment) :
    comment? before = none := by
  have notVariable : Category.comment ≠ .identifier := by decide
  rcases cut.exists_candidates notVariable with ⟨new, tokens, onlyOver⟩
  have noneIsNew : new = [] := by
    by_contra isNew
    rcases (onlyOver isNew).2.2 with ⟨token, isToken, starts, _⟩
    rw [cut.candidates_comment, List.mem_singleton] at isToken
    rw [isToken, cut.start_eq] at starts
    exact Nat.lt_irrefl _ starts
  have isToken : comment ∈ candidates (before ++ behind) .comment := by
    simp [cut.candidates_comment]
  have overlapsItself := Span.intersects_self (start_lt_stop_of_mem_candidates isToken)
  rw [comment?, tokens, noneIsNew, cut.candidates_comment]
  simp [overlapsItself]

/-! ## What is taken up in front of the comment -/

/-- A category leaves as much in front of the comment as in the whole text, if everything that it
takes up there is a token of the whole text. -/
theorem CutAtComment.unblocked_before (cut : CutAtComment before behind comment)
    (notVariable : category ≠ .identifier) {taken : List Span}
    (areTokens : ∀ span ∈ unblocked before taken category,
      span ∈ candidates (before ++ behind) category) :
    unblocked before taken category =
      unblocked (before ++ behind) (taken ++ [comment]) category := by
  rcases cut.exists_candidates notVariable with ⟨new, tokens, _⟩
  have noneIsNew : new.filter (fun span => !taken.any (·.intersects span)) = [] := by
    rw [List.filter_eq_nil_iff]
    intro span isNew passes
    have isToken : span ∈ candidates before category := by
      rw [tokens]
      exact List.mem_append_right _ isNew
    have isTokenOfAll := areTokens span (List.mem_filter.mpr ⟨isToken, passes⟩)
    have isKept : span ∈ (candidates (before ++ behind) category).filter
        (!comment.intersects ·) := by
      rw [List.mem_filter, cut.not_intersects isToken]
      exact ⟨isTokenOfAll, rfl⟩
    -- The text in front of the comment would have the token twice.
    have once := nodup_candidates before category
    rw [tokens, List.nodup_append] at once
    exact once.2.2 span isKept span isNew rfl
  rw [unblocked, unblocked, tokens, List.filter_append, noneIsNew, List.append_nil,
    List.filter_filter]
  apply List.filter_congr
  intro span _
  simp

/-- The competing categories share the text in front of the comment as they share the whole text, if
everything that they take up there is a token of the whole text. -/
theorem CutAtComment.accepted_before (cut : CutAtComment before behind comment)
    {categories : List Category} (noVariables : .identifier ∉ categories) {taken : List Span}
    (areTokens : ∀ span ∈ accepted before taken categories,
      span ∈ candidates (before ++ behind) span.category) :
    accepted before taken categories =
      accepted (before ++ behind) (taken ++ [comment]) categories := by
  induction categories generalizing taken with
  | nil => rfl
  | cons category weaker ih =>
      rw [List.mem_cons, not_or] at noVariables
      have ownAreTokens : ∀ span ∈ unblocked before taken category,
          span ∈ candidates (before ++ behind) category := by
        intro span isOwn
        have isToken := areTokens span (List.mem_append_left _ isOwn)
        rwa [category_of_mem_candidates (mem_unblocked.mp isOwn).1] at isToken
      have weakerAreTokens : ∀ span ∈ accepted before
          ((unblocked before taken category).reverse ++ taken) weaker,
          span ∈ candidates (before ++ behind) span.category :=
        fun span isAccepted => areTokens span (List.mem_append_right _ isAccepted)
      have own := cut.unblocked_before (Ne.symm noVariables.1) ownAreTokens
      have shareWeaker := ih noVariables.2 weakerAreTokens
      rw [own, List.append_assoc] at shareWeaker
      rw [accepted, accepted, own, shareWeaker]

theorem competing_eq (notAtStart : ∀ comment, comment? text = some comment → comment.start ≠ 0) :
    competing text = accepted text (comment? text).toList Category.byPrecedence := by
  have noneIsComment : (comment? text).toList.filter
      (fun span => Category.byPrecedence.contains span.category) = [] := by
    rw [List.filter_eq_nil_iff]
    intro span isComment
    rw [category_of_comment? (Option.mem_toList.mp isComment)]
    decide
  have noneIsVariable : (candidates text .identifier).filter
      (fun span => Category.byPrecedence.contains span.category) = [] := by
    rw [List.filter_eq_nil_iff]
    intro span isVariable
    rw [category_of_mem_candidates isVariable]
    decide
  rw [competing, classify_eq notAtStart, List.filter_append, List.filter_append, noneIsComment,
    noneIsVariable, List.append_nil, List.nil_append, List.filter_eq_self]
  intro span isAccepted
  exact List.contains_iff_mem.mpr (category_mem_of_mem_accepted isAccepted).1

theorem CutAtComment.competing_before (cut : CutAtComment before behind comment)
    (notAtStart : 0 < comment.start)
    (areTokens : ∀ span ∈ competing before,
      span ∈ candidates (before ++ behind) span.category) :
    competing before = competing (before ++ behind) := by
  have alone : competing before = accepted before [] Category.byPrecedence := by
    rw [competing_eq (by simp [cut.comment?_before]), cut.comment?_before]
    rfl
  have whole : competing (before ++ behind) =
      accepted (before ++ behind) [comment] Category.byPrecedence := by
    rw [competing_eq (by simpa [cut.found] using Nat.ne_of_gt notAtStart), cut.found]
    rfl
  rw [alone] at areTokens ⊢
  rw [whole, cut.accepted_before (by decide) areTokens, List.nil_append]

/-- Where nothing runs into the comment, the text in front of it has no tokens of its own. -/
theorem CutAtComment.mem_candidates (cut : CutAtComment before behind comment)
    (nothingRunsOver : ∀ category ∈ [Category.string, .operator, .label],
      ∀ token ∈ candidates (before ++ behind) category,
        ¬(token.start < before.byteLen ∧ before.byteLen < token.stop))
    (competes : category ∈ Category.byPrecedence) (isToken : span ∈ candidates before category) :
    span ∈ candidates (before ++ behind) category := by
  have notVariable : category ≠ .identifier := by
    rintro rfl
    exact absurd competes (by decide)
  rcases cut.exists_candidates notVariable with ⟨new, tokens, onlyOver⟩
  have noneIsNew : new = [] := by
    by_contra isNew
    rcases onlyOver isNew with ⟨noKeyword, noParameter, token, isLong, runsOver⟩
    have runsIn : category ∈ [Category.string, .operator, .label] := by
      simpa [Category.byPrecedence, noKeyword, noParameter] using competes
    exact nothingRunsOver category runsIn token isLong runsOver
  rw [tokens, noneIsNew, List.append_nil] at isToken
  exact (List.mem_filter.mp isToken).1

theorem mem_competing :
    span ∈ competing text ↔ span ∈ classify text ∧ span.category ∈ Category.byPrecedence := by
  rw [competing, List.mem_filter, List.contains_iff_mem]

/-- Every competing span is a token of its category. -/
theorem mem_candidates_of_mem_competing (isSpan : span ∈ competing text) :
    span ∈ candidates text span.category :=
  mem_candidates_category (mem_competing.mp isSpan).1

end Classification

open Classification in
/-- In front of a comment that does not begin its line, the competing categories have the spans that
they have in the text in front of it alone, exactly if these are all tokens of the whole text; and
they are unless a string, an operator or a label runs into the comment. -/
theorem classify_before_comment {text : Text} {comment : Span} (oneLine : '\n' ∉ text)
    (isSpan : comment ∈ classify text) (isComment : comment.category = .comment)
    (notAtStart : 0 < comment.start) :
    let before := Text.takeBytes comment.start text
    (competing before = competing text ↔
      ∀ span ∈ competing before, span ∈ candidates text span.category) ∧
    ((∀ category ∈ [Category.string, .operator, .label], ∀ token ∈ candidates text category,
        ¬(token.start < comment.start ∧ comment.start < token.stop)) →
      competing before = competing text) := by
  have found := comment?_of_mem_classify isSpan isComment
  rcases exists_cutAtComment oneLine found with ⟨before, behind, rfl, cut⟩
  have isFront : Text.takeBytes comment.start (before ++ behind) = before := by
    rw [cut.start_eq, Text.takeBytes_cut]
  rw [isFront]
  refine ⟨⟨?_, cut.competing_before notAtStart⟩, ?_⟩
  · intro same span isSpan
    rw [same] at isSpan
    exact mem_candidates_of_mem_competing isSpan
  · intro nothingRunsOver
    rw [cut.start_eq] at nothingRunsOver
    apply cut.competing_before notAtStart
    intro span isSpan
    exact cut.mem_candidates nothingRunsOver (mem_competing.mp isSpan).2
      (mem_candidates_of_mem_competing isSpan)

open Classification in
/-- A switch and a command in front of a remark. -/
theorem classify_before_comment_of_switch :
    let text := "dir /b &rem x".toList
    '\n' ∉ text ∧ (⟨7, 6, .comment⟩ : Span) ∈ classify text ∧
      competing (Text.takeBytes 7 text) = competing text ∧
      competing text = [⟨0, 3, .keyword⟩, ⟨4, 2, .parameter⟩] := by
  have oneLine : '\n' ∉ "dir /b &rem x".toList := by decide
  have isSpan : (⟨7, 6, .comment⟩ : Span) ∈ classify "dir /b &rem x".toList := by decide +kernel
  have same := (classify_before_comment oneLine isSpan rfl (by decide)).2 (by decide +kernel)
  exact ⟨oneLine, isSpan, same, by decide +kernel⟩

open Classification in
/-- What a command echoes runs into the comment and is left out, so that the text in front of the
comment is not classified as if it stood alone. -/
theorem not_classify_before_comment :
    ¬∀ text comment, '\n' ∉ text → comment ∈ classify text → comment.category = .comment →
      0 < comment.start →
      ∀ span, span ∈ competing (Text.takeBytes comment.start text) ↔ span ∈ competing text := by
  intro isAlone
  have echoed := (isAlone "echo a & rem x".toList ⟨7, 7, .comment⟩ (by decide) (by decide +kernel)
    rfl (by decide) ⟨5, 2, .string⟩).mp (by decide +kernel)
  exact absurd echoed (by decide +kernel)

end BatchLens
