import BatchLens.Proofs.Batch.Assignment

/-!
# Bars apart

A token of any category but the operators has a character that is neither a bar nor white space
(`exists_other_of_takes`). Of a line of bars and white space the spans are therefore its operators
(`classify_of_bars`), and a bar that no other one follows is an operator by itself (`prefers_bar`).
So two bars are two spans, however far they are apart (`classify_barsInLine`).
-/

namespace BatchLens

open Pattern

namespace Grammar

/-- Whether a character is neither a bar nor white space. -/
def isOther (c : Char) : Bool := isSolid c && c != '|'

variable {before taken behind rest : Text} {token : Option ByteRange} {category : Category}

/-! ## What is no operator -/

theorem isOther_of_foldToAscii {c : Char} (folds : isOther (Unicode.foldToAscii c) = true) :
    isOther c = true :=
  Unicode.passes_of_foldToAscii (by decide) folds

theorem exists_other_of_map {word letters : Text} (folds : word.map Unicode.foldToAscii = letters)
    (hasOther : letters.any isOther = true) : ∃ c ∈ word, isOther c = true := by
  rcases List.any_eq_true.mp hasOther with ⟨letter, isLetter, other⟩
  rw [← folds] at isLetter
  rcases List.mem_map.mp isLetter with ⟨c, isIn, rfl⟩
  exact ⟨c, isIn, isOther_of_foldToAscii other⟩

theorem exists_other_of_takes (notOperator : category ≠ .operator)
    (takes : (pattern category).Takes before taken behind token) :
    ∃ c ∈ taken, isOther c = true := by
  cases category with
  | comment =>
      rcases of_takes_comment takes with
        ⟨_, spaces, sign, opening, rest, rfl, _, _, isOpening, _⟩ | ⟨first, spaces, rest, rfl, _⟩
      · have hasOther : ∃ c ∈ opening, isOther c = true := by
          rcases isOpening with isCommand | rfl
          · exact exists_other_of_map isCommand (by decide)
          · exact ⟨':', by decide, by decide⟩
        rcases hasOther with ⟨c, isIn, other⟩
        exact ⟨c, by simp [isIn], other⟩
      · exact ⟨'&', by simp, by decide⟩
  | string =>
      rcases of_takes_string takes with
        ⟨_, quote, inner, isQuote, rfl⟩ | ⟨command, spaces, first, rest, rfl, isCommand, _⟩
      · exact ⟨quote, by simp, by rcases isQuote with rfl | rfl <;> decide⟩
      · rcases exists_other_of_map isCommand (by decide) with ⟨c, isIn, other⟩
        exact ⟨c, by simp [isIn], other⟩
  | keyword =>
      rcases of_takes_keyword takes with ⟨space, sign, name, rfl, _, _, isName, _⟩
      have haveOthers : ∀ name ∈ Keyword.names, name.any isOther = true := by decide
      rcases exists_other_of_map rfl (haveOthers _ isName) with ⟨c, isIn, other⟩
      exact ⟨c, by simp [isIn], other⟩
  | operator => exact absurd rfl notOperator
  | parameter =>
      rcases of_takes_parameter takes with ⟨space, dashes, name, rfl, _, nonempty, areDashes, _⟩
      rcases List.exists_mem_of_ne_nil dashes nonempty with ⟨dash, isIn⟩
      exact ⟨dash, by simp [isIn], by rcases areDashes dash isIn with rfl | rfl <;> decide⟩
  | identifier =>
      have takes : identifier.Takes before taken behind token := takes
      rw [identifier_eq, takes_orElse] at takes
      rcases takes with isAssignment | isReference
      · rcases of_takes_assignment isAssignment with ⟨written, isWritten, rfl, _⟩
        rcases isWritten.exists_head_text with ⟨c, more, text, folds⟩
        exact ⟨c, by simp [text], isOther_of_foldToAscii (by rw [folds]; decide)⟩
      · rcases head_of_takes_reference isReference with ⟨more, rfl⟩
        exact ⟨'%', by simp, by decide⟩
  | label =>
      rcases of_takes_label takes with
        ⟨_, spaces, name, rfl, _⟩ | ⟨command, gap, name, rfl, isCommand, _⟩
      · exact ⟨':', by simp, by decide⟩
      · rcases exists_other_of_map isCommand (by decide) with ⟨c, isIn, other⟩
        exact ⟨c, by simp [isIn], other⟩

/-! ## Operators -/

theorem isSpace_eq_false_of_isSolid {c : Char} (solid : isSolid c = true) : isSpace c = false := by
  simpa [isSolid, isSpace] using solid

/-- A bar is an operator by itself if white space follows, or nothing. -/
theorem prefers_bar (ends : ∀ c ∈ behind.head?, isSpace c = true) :
    operator.Prefers before ['|'] behind none := by
  have takes : operator.Takes before ['|'] behind none :=
    takes_operator.mpr ⟨.inl (by decide), rfl⟩
  rcases exists_prefers_of_takes takes with ⟨taken, later, token, cut, prefers⟩
  rcases of_takes_operator prefers.takes with ⟨rfl, ⟨c, isIn, _⟩, areSolid⟩
  cases taken with
  | nil => exact absurd isIn List.not_mem_nil
  | cons first more =>
      obtain ⟨rfl, rfl⟩ := List.cons_eq_cons.mp cut
      cases more with
      | nil => exact prefers
      | cons next _ =>
          have solid := isSpace_eq_false_of_isSolid (areSolid next (by simp))
          rw [ends next rfl] at solid
          exact absurd solid (by decide)

theorem passesOver_spaces {spaces : Text} (areSpaces : ∀ c ∈ spaces, isSpace c = true) :
    operator.PassesOver before spaces rest := by
  rintro front back rfl nonempty taken behind token cut takes
  rcases of_takes_operator takes with ⟨_, ⟨c, isIn, _⟩, areSolid⟩
  cases taken with
  | nil => exact absurd isIn List.not_mem_nil
  | cons first more =>
      rcases List.exists_cons_of_ne_nil nonempty with ⟨space, others, rfl⟩
      obtain ⟨rfl, _⟩ := List.cons_eq_cons.mp cut
      have solid := isSpace_eq_false_of_isSolid (areSolid space (by simp))
      rw [areSpaces space (by simp)] at solid
      exact absurd solid (by decide)

end Grammar

namespace Classification

variable {text : Text}

/-- The spans of bars and white space are operators. -/
theorem classify_of_bars (areBars : ∀ c ∈ text, Grammar.isOther c = false) :
    classify text = candidates text .operator := by
  have noOthers : ∀ category, category ≠ .operator → candidates text category = [] := by
    intro category notOperator
    apply candidates_eq_nil
    intro before taken behind token cut takes
    rcases Grammar.exists_other_of_takes notOperator takes with ⟨c, isIn, other⟩
    rw [areBars c (by simp [cut, isIn])] at other
    exact absurd other (by decide)
  have noComment : comment? text = none := by
    rw [comment?, noOthers .comment (by decide)]
    rfl
  rw [classify_eq (by simp [noComment]), noComment]
  simp [Category.byPrecedence, accepted, unblocked, noOthers]

/-- An indented bar, and another one behind spaces. -/
def barsInLine (between : Nat) : Text := [' ', '|'] ++ (List.replicate (between + 1) ' ' ++ ['|'])

theorem eq_of_mem_barsInLine {between : Nat} {c : Char} (isIn : c ∈ barsInLine between) :
    c = ' ' ∨ c = '|' := by
  rcases List.mem_append.mp isIn with isFirst | isLater
  · simpa using isFirst
  · rcases List.mem_append.mp isLater with isSpace | isBar
    · exact .inl (List.eq_of_mem_replicate isSpace)
    · exact .inr (List.mem_singleton.mp isBar)

theorem tokensBetween_barsInLine (between : Nat) :
    Grammar.operator.tokensBetween 0 [] (barsInLine between) =
      [⟨1, 2⟩, ⟨between + 3, between + 4⟩] := by
  let spaces : Text := List.replicate (between + 1) ' '
  have isIndent : ∀ c ∈ [' '], Grammar.isSpace c = true := List.forall_mem_singleton.mpr (by decide)
  have areSpaces : ∀ c ∈ spaces, Grammar.isSpace c = true := by
    intro c isIn
    rw [List.eq_of_mem_replicate isIn]
    decide
  have firstEnds : ∀ c ∈ (spaces ++ (['|'] ++ [])).head?, Grammar.isSpace c = true := by
    intro c isIn
    have isFirst : some ' ' = some c := isIn
    rw [← Option.some.inj isFirst]
    decide
  have cut : barsInLine between = [' '] ++ (['|'] ++ (spaces ++ (['|'] ++ []))) := rfl
  rw [cut, tokensBetween_append_of_passesOver (Grammar.passesOver_spaces isIndent),
    tokensBetween_append_of_prefers (Nat.zero_le _) (by decide) (Grammar.prefers_bar firstEnds),
    tokensBetween_append_of_passesOver (Grammar.passesOver_spaces areSpaces),
    tokensBetween_append_of_prefers (by simp) (by decide) (Grammar.prefers_bar (by simp)),
    tokensBetween_nil]
  have space : ' '.utf8Size = 1 := rfl
  have bar : '|'.utf8Size = 1 := rfl
  have length : spaces.byteLen = between + 1 :=
    (Text.byteLen_replicate _ _).trans (Nat.mul_one _)
  simp only [reported, Option.getD_none, List.nil_append, Text.byteLen_append, Text.byteLen_cons,
    Text.byteLen_nil, length, space, bar, List.cons.injEq, ByteRange.mk.injEq, true_and, and_true]
  omega

theorem classify_barsInLine (between : Nat) :
    classify (barsInLine between) = [⟨1, 1, .operator⟩, ⟨between + 3, 1, .operator⟩] := by
  have areBars : ∀ c ∈ barsInLine between, Grammar.isOther c = false := by
    intro c isIn
    rcases eq_of_mem_barsInLine isIn with rfl | rfl <;> decide
  rw [classify_of_bars areBars, candidates, Grammar.pattern, findAll_eq, tokensBetween_barsInLine]
  simp [Span.ofRange]

end Classification

end BatchLens
