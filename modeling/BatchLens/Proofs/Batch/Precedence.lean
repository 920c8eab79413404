import Mathlib.Data.List.Pairwise
import BatchLens.Proofs.Batch.Classification
import BatchLens.Proofs.Pattern.Search

/-!
# Precedence among categories

The running check for overlaps comes to a rule that speaks of no order of events: a token is left
out only where it overlaps a span of a stronger category (`classify_by_precedence`). Tokens of one
category never exclude one another, because they lie one behind the other
(`candidates_pairwise`), so that all tokens of a category can be checked against the stronger
categories at once (`foldl_takeUp_candidates`).
-/

namespace BatchLens

/-- Whether spans of a category leave no room for spans of another one. -/
def Category.Precedes (strong weak : Category) : Prop :=
  [strong, weak].Sublist (.comment :: byPrecedence)

instance (strong weak : Category) : Decidable (strong.Precedes weak) :=
  inferInstanceAs (Decidable (List.Sublist _ _))

namespace Category

variable {strong weak category : Category}

theorem comment_precedes (competes : category ∈ byPrecedence) : comment.Precedes category :=
  .cons_cons comment (List.singleton_sublist.mpr competes)

theorem not_identifier_precedes : ¬identifier.Precedes category := by
  intro precedes
  exact absurd (precedes.subset List.mem_cons_self) (by decide)

/-- A competing category comes before another one among the competing categories. -/
theorem Precedes.sublist (precedes : strong.Precedes weak) (competes : strong ∈ byPrecedence) :
    [strong, weak].Sublist byPrecedence := by
  rcases List.sublist_cons_iff.mp precedes with among | ⟨rest, isComment, _⟩
  · exact among
  · obtain ⟨rfl, _⟩ := List.cons.inj isComment
    exact absurd competes (by decide)

end Category

namespace Span

theorem intersects_iff {span other : Span} :
    span.intersects other = true ↔ span.start < other.stop ∧ other.start < span.stop := by
  rw [intersects, Bool.and_eq_true, decide_eq_true_eq, decide_eq_true_eq]

theorem intersects_eq_false_of_stop_le {span other : Span} (ordered : span.stop ≤ other.start) :
    span.intersects other = false := by
  rw [Bool.eq_false_iff, Ne, intersects_iff]
  omega

theorem intersects_comm (span other : Span) : span.intersects other = other.intersects span :=
  Bool.and_comm ..

/-- Whether two spans do not overlap. -/
def Apart (span other : Span) : Prop := span.intersects other = false

instance : Std.Symm Apart :=
  ⟨fun span other apart => (intersects_comm other span).trans apart⟩

theorem stop_ofRange (category : Category) {range : ByteRange}
    (ordered : range.start ≤ range.stop) : (ofRange category range).stop = range.stop :=
  Nat.add_sub_cancel' ordered

theorem intersects_self {span : Span} (nonempty : span.start < span.stop) :
    span.intersects span = true :=
  intersects_iff.mpr ⟨nonempty, nonempty⟩

end Span

namespace Classification

variable {text : Text} {span : Span} {category : Category}

/-! ## The tokens of one category -/

theorem category_of_mem_candidates (isCandidate : span ∈ candidates text category) :
    span.category = category := by
  rcases List.mem_map.mp isCandidate with ⟨range, _, rfl⟩
  rfl

/-- Every token is reported for a match of the pattern of its category. -/
theorem exists_prefers_of_mem_candidates (isToken : span ∈ candidates text category) :
    ∃ before taken behind token, text = before ++ taken ++ behind ∧
      (Grammar.pattern category).Prefers before taken behind token ∧
      span = Span.ofRange category (Pattern.reported before taken token) := by
  rcases List.mem_map.mp isToken with ⟨range, found, rfl⟩
  rcases Pattern.exists_prefers_of_mem_findAll found with
    ⟨before, taken, behind, token, cut, prefers, rfl⟩
  exact ⟨before, taken, behind, token, cut, prefers, rfl⟩

theorem candidates_eq_nil
    (never : ∀ before taken behind token, text = before ++ taken ++ behind →
      ¬(Grammar.pattern category).Takes before taken behind token) :
    candidates text category = [] := by
  rw [List.eq_nil_iff_forall_not_mem]
  intro span isToken
  rcases exists_prefers_of_mem_candidates isToken with
    ⟨before, taken, behind, token, cut, prefers, _⟩
  exact never before taken behind token cut prefers.takes

theorem mem_candidates_of_mem_tokensBetween {range : ByteRange}
    (found : range ∈ (Grammar.pattern category).tokensBetween 0 [] text)
    (nonempty : range.start < range.stop) :
    Span.ofRange category range ∈ candidates text category :=
  List.mem_map_of_mem (List.mem_filter.mpr ⟨found, decide_eq_true nonempty⟩)

theorem start_lt_stop_of_mem_candidates (isCandidate : span ∈ candidates text category) :
    span.start < span.stop := by
  rcases List.mem_map.mp isCandidate with ⟨range, found, rfl⟩
  have nonempty := Pattern.start_lt_stop_of_mem_findAll found
  rw [Span.stop_ofRange category (Nat.le_of_lt nonempty)]
  exact nonempty

theorem stop_le_of_mem_candidates (isToken : span ∈ candidates text category) :
    span.stop ≤ text.byteLen := by
  rcases exists_covers_of_mem_candidates isToken with ⟨front, middle, back, covers⟩
  rw [covers.stop_eq, covers.text_eq, Text.byteLen_append (front ++ middle)]
  omega

theorem candidates_pairwise (text : Text) (category : Category) :
    (candidates text category).Pairwise fun left right => left.stop ≤ right.start := by
  rw [candidates, List.pairwise_map]
  apply (Pattern.findAll_pairwise _ text).imp_of_mem
  intro left right isLeft _ ordered
  have nonempty := Pattern.start_lt_stop_of_mem_findAll isLeft
  rw [Span.stop_ofRange category (Nat.le_of_lt nonempty)]
  exact ordered

theorem nodup_candidates (text : Text) (category : Category) :
    (candidates text category).Nodup := by
  apply (candidates_pairwise text category).imp_of_mem
  rintro left right isLeft _ ordered rfl
  have nonempty := start_lt_stop_of_mem_candidates isLeft
  omega

/-! ## Taking up -/

/-- The tokens of a category that overlap none of the spans taken before. -/
def unblocked (text : Text) (taken : List Span) (category : Category) : List Span :=
  (candidates text category).filter fun span => !taken.any (·.intersects span)

/-- The tokens of some categories, the strongest first, that are taken up behind other spans, the
latest of which come first. -/
def accepted (text : Text) (taken : List Span) : List Category → List Span
  | [] => []
  | category :: weaker =>
      let own := unblocked text taken category
      own ++ accepted text (own.reverse ++ taken) weaker

theorem mem_unblocked {taken : List Span} :
    span ∈ unblocked text taken category ↔
      span ∈ candidates text category ∧ ∀ other ∈ taken, other.intersects span = false := by
  simp [unblocked]

/-- Spans that lie one behind the other are taken up independently of one another. -/
theorem foldl_takeUp_of_pairwise {spans : List Span}
    (ordered : spans.Pairwise fun left right => left.stop ≤ right.start) (taken : List Span) :
    spans.foldl takeUp taken =
      (spans.filter fun span => !taken.any (·.intersects span)).reverse ++ taken := by
  induction spans generalizing taken with
  | nil => rfl
  | cons first others ih =>
      rcases List.pairwise_cons.mp ordered with ⟨behind, othersOrdered⟩
      rw [List.foldl_cons, takeUp, List.filter_cons, ih othersOrdered]
      cases blocked : taken.any (·.intersects first) with
      | true => rfl
      | false =>
          have unaffected : (others.filter fun span => !(first :: taken).any (·.intersects span)) =
              others.filter fun span => !taken.any (·.intersects span) := by
            apply List.filter_congr
            intro other isOther
            rw [List.any_cons, Span.intersects_eq_false_of_stop_le (behind other isOther),
              Bool.false_or]
          rw [if_neg Bool.false_ne_true, unaffected]
          simp

/-- The running check gives each category what the stronger ones leave. -/
theorem foldl_takeUp_candidates (text : Text) (taken : List Span) (categories : List Category) :
    (categories.flatMap (candidates text)).foldl takeUp taken =
      (accepted text taken categories).reverse ++ taken := by
  induction categories generalizing taken with
  | nil => rfl
  | cons category weaker ih =>
      rw [List.flatMap_cons, List.foldl_append,
        foldl_takeUp_of_pairwise (candidates_pairwise text category), ih, accepted,
        List.reverse_append, List.append_assoc]
      rfl

theorem spansWith_eq (comment : Option Span) (text : Text) :
    spansWith comment text =
      comment.toList ++ accepted text comment.toList Category.byPrecedence ++
        candidates text .identifier := by
  rw [spansWith, foldl_takeUp_candidates, List.reverse_append, List.reverse_reverse]
  cases comment <;> rfl

/-! ## What is taken up -/

theorem category_mem_of_mem_accepted {taken : List Span} {categories : List Category}
    (isAccepted : span ∈ accepted text taken categories) :
    span.category ∈ categories ∧ span ∈ candidates text span.category := by
  induction categories generalizing taken with
  | nil => exact absurd isAccepted List.not_mem_nil
  | cons category weaker ih =>
      rcases List.mem_append.mp isAccepted with isOwn | isWeaker
      · have isCandidate := (mem_unblocked.mp isOwn).1
        obtain rfl := category_of_mem_candidates isCandidate
        exact ⟨List.mem_cons_self, isCandidate⟩
      · rcases ih isWeaker with ⟨isCategory, isCandidate⟩
        exact ⟨List.mem_cons_of_mem category isCategory, isCandidate⟩

theorem not_intersects_of_mem_accepted {taken : List Span} {categories : List Category}
    (isAccepted : span ∈ accepted text taken categories) {other : Span} (isTaken : other ∈ taken) :
    other.intersects span = false := by
  induction categories generalizing taken with
  | nil => exact absurd isAccepted List.not_mem_nil
  | cons category weaker ih =>
      rcases List.mem_append.mp isAccepted with isOwn | isWeaker
      · exact (mem_unblocked.mp isOwn).2 other isTaken
      · exact ih isWeaker (List.mem_append_right _ isTaken)

/-- What is taken up overlaps nothing else that is. -/
theorem accepted_pairwise (text : Text) (taken : List Span) (categories : List Category) :
    (accepted text taken categories).Pairwise Span.Apart := by
  induction categories generalizing taken with
  | nil => exact .nil
  | cons category weaker ih =>
      rw [accepted, List.pairwise_append]
      refine ⟨?_, ih _, ?_⟩
      · apply ((candidates_pairwise text category).filter _).imp
        intro left right ordered
        exact Span.intersects_eq_false_of_stop_le ordered
      · intro own isOwn other isOther
        apply not_intersects_of_mem_accepted isOther
        simpa using .inl isOwn

/-- A token of some categories is taken up if it overlaps none of the spans taken before and none
of those that are taken up of the stronger ones among these categories. -/
theorem mem_accepted {taken : List Span} {categories : List Category} (once : categories.Nodup) :
    span ∈ accepted text taken categories ↔
      span.category ∈ categories ∧ span ∈ candidates text span.category ∧
        (∀ other ∈ taken, other.intersects span = false) ∧
        ∀ other ∈ accepted text taken categories,
          [other.category, span.category].Sublist categories → other.intersects span = false := by
  constructor
  · intro isAccepted
    rcases category_mem_of_mem_accepted isAccepted with ⟨isCategory, isCandidate⟩
    refine ⟨isCategory, isCandidate, fun other => not_intersects_of_mem_accepted isAccepted, ?_⟩
    intro other isOther stronger
    have different : other ≠ span := by
      rintro rfl
      have := once.sublist stronger
      simp at this
    exact (accepted_pairwise text taken categories).forall isOther isAccepted different
  · rintro ⟨isCategory, isCandidate, free, freeOfStronger⟩
    induction categories generalizing taken with
    | nil => exact absurd isCategory List.not_mem_nil
    | cons category weaker ih =>
        rw [accepted, List.mem_append]
        rcases List.mem_cons.mp isCategory with rfl | isWeaker
        · exact .inl (mem_unblocked.mpr ⟨isCandidate, free⟩)
        · refine .inr (ih (List.nodup_cons.mp once).2 isWeaker ?_ ?_)
          · intro other isOther
            rcases List.mem_append.mp isOther with isOwn | isTaken
            · have isOwn := List.mem_reverse.mp isOwn
              apply freeOfStronger other (List.mem_append_left _ isOwn)
              rw [category_of_mem_candidates (mem_unblocked.mp isOwn).1]
              exact .cons_cons category (List.singleton_sublist.mpr isWeaker)
            · exact free other isTaken
          · intro other isOther stronger
            exact freeOfStronger other (List.mem_append_right _ isOther) (.cons category stronger)

/-- The spans of a text: a comment at its very start alone, or else the first comment, what the
categories leave to one another, and the variable names. -/
theorem classify_cases (text : Text) :
    (∃ comment, comment? text = some comment ∧ comment.start = 0 ∧ classify text = [comment]) ∨
      ((∀ comment, comment? text = some comment → comment.start ≠ 0) ∧
        classify text =
          (comment? text).toList ++ accepted text (comment? text).toList Category.byPrecedence ++
            candidates text .identifier) := by
  cases found : comment? text with
  | none =>
      refine .inr ⟨by simp, ?_⟩
      rw [classify, found, spansWith_eq]
  | some comment =>
      by_cases atStart : comment.start = 0
      · refine .inl ⟨comment, rfl, atStart, ?_⟩
        rw [classify, found]
        simp only [atStart, if_true]
      · refine .inr ⟨?_, ?_⟩
        · rintro other same
          rwa [← Option.some.inj same]
        · rw [classify, found]
          simp only [atStart, if_false, spansWith_eq]

theorem classify_eq (notAtStart : ∀ comment, comment? text = some comment → comment.start ≠ 0) :
    classify text =
      (comment? text).toList ++ accepted text (comment? text).toList Category.byPrecedence ++
        candidates text .identifier := by
  rcases classify_cases text with ⟨comment, found, atStart, _⟩ | ⟨_, spans⟩
  · exact absurd atStart (notAtStart comment found)
  · exact spans

theorem category_of_comment? (found : comment? text = some span) : span.category = .comment :=
  category_of_mem_candidates (mem_candidates_of_comment? found)

/-- The comment and the spans that are taken up behind it do not overlap one another. -/
theorem competing_pairwise (text : Text) (comment : Option Span) (categories : List Category) :
    (comment.toList ++ accepted text comment.toList categories).Pairwise Span.Apart := by
  rw [List.pairwise_append]
  refine ⟨?_, accepted_pairwise text _ categories, ?_⟩
  · cases comment <;> simp
  · intro other isComment span isAccepted
    exact not_intersects_of_mem_accepted isAccepted isComment

/-- Every span is a token of its category. -/
theorem mem_candidates_category (isSpan : span ∈ classify text) :
    span ∈ candidates text span.category := by
  rcases mem_candidates_of_mem_classify isSpan with ⟨category, isToken⟩
  rwa [category_of_mem_candidates isToken]

/-- Two spans of one category that overlap are the same. -/
theorem eq_of_intersects {other : Span} (isSpan : span ∈ classify text)
    (isOther : other ∈ classify text) (same : other.category = span.category)
    (overlaps : span.intersects other = true) : span = other := by
  have isToken := mem_candidates_category isSpan
  have isOtherToken := mem_candidates_category isOther
  rw [same] at isOtherToken
  have apart : (candidates text span.category).Pairwise Span.Apart :=
    (candidates_pairwise text span.category).imp Span.intersects_eq_false_of_stop_le
  by_contra different
  exact Bool.false_ne_true ((apart.forall isToken isOtherToken different).symm.trans overlaps)

/-- Two spans of one category that contain the same offset are the same. -/
theorem eq_of_contains {other : Span} {offset : Nat} (isSpan : span ∈ classify text)
    (isOther : other ∈ classify text) (same : other.category = span.category)
    (contains : span.contains offset = true) (otherContains : other.contains offset = true) :
    span = other := by
  simp only [Span.contains, Bool.and_eq_true, decide_eq_true_eq] at contains otherContains
  apply eq_of_intersects isSpan isOther same
  rw [Span.intersects_iff]
  omega

/-- A search for a span that has something in common only with spans it overlaps finds that span. -/
theorem find?_classify {test : Span → Bool} (isSpan : span ∈ classify text)
    (passes : test span = true)
    (once : ∀ other, test other = true →
      other.category = span.category ∧ span.intersects other = true) :
    (classify text).find? test = some span := by
  cases found : (classify text).find? test with
  | none => exact absurd passes (List.find?_eq_none.mp found span isSpan)
  | some other =>
      rcases once other (List.find?_some found) with ⟨same, overlaps⟩
      rw [eq_of_intersects isSpan (List.mem_of_find?_eq_some found) same overlaps]

theorem find?_contains {offset : Nat} (isSpan : span ∈ classify text)
    (contains : span.contains offset = true) :
    (classify text).find? (fun other =>
      other.category == span.category && other.contains offset) = some span := by
  apply find?_classify isSpan
  · simp [contains]
  · intro other passes
    simp only [Span.contains, Bool.and_eq_true, decide_eq_true_eq, beq_iff_eq] at contains passes
    refine ⟨passes.1, Span.intersects_iff.mpr ?_⟩
    omega

theorem find?_containsCaret {caret : Nat} (isSpan : span ∈ classify text)
    (contains : span.containsCaret caret = true) :
    (classify text).find? (fun other =>
      other.category == span.category && other.containsCaret caret) = some span := by
  apply find?_classify isSpan
  · simp [contains]
  · intro other passes
    simp only [Span.containsCaret, Bool.and_eq_true, decide_eq_true_eq, beq_iff_eq]
      at contains passes
    refine ⟨passes.1, Span.intersects_iff.mpr ?_⟩
    omega

/-- Beside variable names, the spans of a text do not overlap one another. -/
theorem classify_pairwise (text : Text) :
    ((classify text).filter fun span => span.category != .identifier).Pairwise Span.Apart := by
  rcases classify_cases text with ⟨comment, _, _, alone⟩ | ⟨_, spans⟩
  · rw [alone]
    exact (List.pairwise_singleton ..).filter _
  · rw [spans, List.filter_append]
    have noneIsOther : (candidates text .identifier).filter
        (fun span => span.category != .identifier) = [] := by
      rw [List.filter_eq_nil_iff]
      intro span isIdentifier
      simp [category_of_mem_candidates isIdentifier]
    rw [noneIsOther, List.append_nil]
    exact (competing_pairwise text (comment? text) _).filter _

theorem nodup_classify
    (notAtStart : ∀ comment, comment? text = some comment → comment.start ≠ 0) :
    (classify text).Nodup := by
  have nonempty : ∀ span ∈ (comment? text).toList ++
      accepted text (comment? text).toList Category.byPrecedence, span.start < span.stop := by
    intro span isSpan
    rcases List.mem_append.mp isSpan with isComment | isAccepted
    · exact start_lt_stop_of_mem_candidates
        (mem_candidates_of_comment? (Option.mem_toList.mp isComment))
    · exact start_lt_stop_of_mem_candidates (category_mem_of_mem_accepted isAccepted).2
  rw [classify_eq notAtStart, List.nodup_append]
  refine ⟨?_, nodup_candidates text .identifier, ?_⟩
  · apply (competing_pairwise text (comment? text) _).imp_of_mem
    rintro left right isLeft _ apart rfl
    exact Bool.false_ne_true (apart.symm.trans (Span.intersects_self (nonempty left isLeft)))
  · rintro span isSpan identifier isIdentifier rfl
    have isVariable := category_of_mem_candidates isIdentifier
    rcases List.mem_append.mp isSpan with isComment | isAccepted
    · rw [category_of_comment? (Option.mem_toList.mp isComment)] at isVariable
      exact absurd isVariable (by decide)
    · have competes := (category_mem_of_mem_accepted isAccepted).1
      rw [isVariable] at competes
      exact absurd competes (by decide)

/-- The spans of a text without a comment at its very start, by what excludes them. -/
theorem mem_classify
    (notAtStart : ∀ comment, comment? text = some comment → comment.start ≠ 0) (span : Span) :
    span ∈ classify text ↔
      comment? text = some span ∨
      (span.category ∈ Category.byPrecedence ∧ span ∈ candidates text span.category ∧
        ∀ stronger ∈ classify text, stronger.category.Precedes span.category →
          stronger.intersects span = false) ∨
      span ∈ candidates text .identifier := by
  have once : Category.byPrecedence.Nodup := by decide
  have spans := classify_eq notAtStart
  have isSpan (other : Span) : other ∈ classify text ↔
      (comment? text = some other ∨
        other ∈ accepted text (comment? text).toList Category.byPrecedence) ∨
      other ∈ candidates text .identifier := by
    rw [spans, List.mem_append, List.mem_append, Option.mem_toList]
  rw [isSpan, or_assoc, mem_accepted once]
  apply or_congr_right
  apply or_congr_left
  apply and_congr_right
  intro competes
  apply and_congr_right
  intro _
  constructor
  · rintro ⟨free, freeOfStronger⟩ stronger isStronger precedes
    rcases (isSpan stronger).mp isStronger with (isComment | isAccepted) | isIdentifier
    · exact free stronger (Option.mem_toList.mpr isComment)
    · have strongCompetes := (category_mem_of_mem_accepted isAccepted).1
      exact freeOfStronger stronger isAccepted (precedes.sublist strongCompetes)
    · rw [category_of_mem_candidates isIdentifier] at precedes
      exact absurd precedes Category.not_identifier_precedes
  · intro free
    refine ⟨?_, ?_⟩
    · intro comment isComment
      have found := Option.mem_toList.mp isComment
      apply free comment ((isSpan comment).mpr (.inl (.inl found)))
      rw [category_of_comment? found]
      exact Category.comment_precedes competes
    · intro stronger isAccepted precedes
      exact free stronger ((isSpan stronger).mpr (.inl (.inr isAccepted))) (.cons _ precedes)

/-- A token is taken up where no token of a stronger category overlaps it. -/
theorem mem_classify_of_free (noComment : candidates text .comment = [])
    (competes : category ∈ Category.byPrecedence) (isToken : span ∈ candidates text category)
    (free : ∀ stronger : Category, stronger.Precedes category →
      ∀ other ∈ candidates text stronger, other.intersects span = false) :
    span ∈ classify text := by
  have notAtStart : ∀ comment, comment? text = some comment → comment.start ≠ 0 := by
    intro comment isComment
    rw [comment?, noComment] at isComment
    exact absurd isComment (by simp)
  obtain rfl := category_of_mem_candidates isToken
  rw [mem_classify notAtStart]
  refine .inr (.inl ⟨competes, isToken, ?_⟩)
  intro other isOther precedes
  exact free other.category precedes other (mem_candidates_category isOther)

end Classification

open Classification in
/-- How the categories share a text. A comment at its very start takes the text for itself.
Otherwise every span is there once, and these are: the first comment; of each competing category
exactly the tokens that overlap no span of a stronger one; and all variable names. So only variable
names overlap other spans, and what is left out overlaps a span of a stronger category. -/
theorem classify_by_precedence (text : Text) :
    (∀ comment, comment? text = some comment → comment.start = 0 → classify text = [comment]) ∧
    ((classify text).filter fun span => span.category != .identifier).Pairwise
      (fun left right => left.intersects right = false) ∧
    ((∀ comment, comment? text = some comment → comment.start ≠ 0) →
      (classify text).Nodup ∧
      (∀ span, span ∈ classify text ↔
        comment? text = some span ∨
        (span.category ∈ Category.byPrecedence ∧ span ∈ candidates text span.category ∧
          ∀ stronger ∈ classify text, stronger.category.Precedes span.category →
            stronger.intersects span = false) ∨
        span ∈ candidates text .identifier) ∧
      (∀ category ∈ Category.byPrecedence, ∀ token ∈ candidates text category,
        token ∉ classify text →
        ∃ stronger ∈ classify text, stronger.category.Precedes category ∧
          stronger.intersects token = true)) := by
  refine ⟨?_, classify_pairwise text, ?_⟩
  · intro comment found atStart
    rcases classify_cases text with ⟨other, same, _, alone⟩ | ⟨notAtStart, _⟩
    · rw [alone, Option.some.inj (same.symm.trans found)]
    · exact absurd atStart (notAtStart comment found)
  · intro notAtStart
    have isSpan := mem_classify notAtStart
    refine ⟨nodup_classify notAtStart, isSpan, ?_⟩
    intro category competes token isToken leftOut
    obtain rfl := category_of_mem_candidates isToken
    by_contra overlapsNone
    apply leftOut
    rw [isSpan]
    refine .inr (.inl ⟨competes, isToken, ?_⟩)
    intro stronger isStronger precedes
    rw [Bool.eq_false_iff]
    intro overlaps
    exact overlapsNone ⟨stronger, isStronger, precedes, overlaps⟩

open Classification in
/-- A bar inside quotes is left out for the quoted text, which is stronger. -/
theorem classify_by_precedence_of_quoted_bar :
    let text := "dir \"a|b\" &rem".toList
    comment? text = some ⟨10, 4, .comment⟩ ∧
      (⟨6, 1, .operator⟩ : Span) ∈ candidates text .operator ∧
      ∃ stronger ∈ classify text, stronger.category.Precedes .operator ∧
        stronger.intersects ⟨6, 1, .operator⟩ = true := by
  intro text
  have found : comment? text = some ⟨10, 4, .comment⟩ := by decide +kernel
  have isToken : (⟨6, 1, .operator⟩ : Span) ∈ candidates text .operator := by decide +kernel
  have notAtStart : ∀ comment, comment? text = some comment → comment.start ≠ 0 := by
    rintro comment isComment
    rw [← Option.some.inj (found.symm.trans isComment)]
    decide
  have leftOut : (⟨6, 1, .operator⟩ : Span) ∉ classify text := by decide +kernel
  exact ⟨found, isToken,
    ((classify_by_precedence text).2.2 notAtStart).2.2 .operator (by decide) _ isToken leftOut⟩

end BatchLens
