import BatchLens.Proofs.Batch.Grammar
import BatchLens.Proofs.Pattern.Coverage

/-!
# Operators

Operators are written without gaps: in a run of operator characters the search alone decides where
one ends and the next one begins. It loses none of these characters and takes nothing else
(`findAll_operator`). Wherever an operator can begin it matches, so that no match can pass over such
a place without taking it (`exists_holds_of_isOperatorPart`), and because a doubled operator is
tried before the single one, what is taken is never cut short (`not_isCutShort_of_prefers`).
-/

namespace BatchLens

namespace Grammar

open Pattern

/-- Whether a character belongs to an operator, given the text behind it: it is one of the
characters that make operators, or a handle in front of an arrow. -/
def IsOperatorPart (c : Char) (behind : Text) : Prop :=
  c ∈ operatorChars ∨ isHandle c = true ∧ behind.head? = some '>'

variable {before taken behind : Text} {token : Option ByteRange} {c : Char}

/-! ## The characters of operators -/

/-- A handle is part of an operator only in front of an arrow, and all other characters that an
operator can have are part of one wherever they stand. -/
theorem IsOperator.isOperatorPart {operator front back rest : Text}
    (isOperator : IsOperator operator) (cut : operator = front ++ c :: back) :
    IsOperatorPart c (back ++ rest) := by
  rcases isOperator with isPlain | ⟨handle, more, isHandle, isMore, rfl⟩
  · have areParts : ∀ text ∈ plainOperators, text.all operatorChars.contains = true := by decide
    have isPart := List.all_eq_true.mp (areParts operator isPlain) c (by simp [cut])
    exact .inl (List.contains_iff_mem.mp isPart)
  · have areArrows : ∀ c ∈ '>' :: more, c ∈ operatorChars := by
      intro c isIn
      obtain rfl : c = '>' := by rcases isMore with rfl | rfl <;> simpa using isIn
      decide
    rcases isHandle with rfl | ⟨d, isHandle, rfl⟩
    · rw [List.nil_append] at cut
      exact .inl (areArrows c (by simp [cut]))
    · rcases List.cons_eq_append_iff.mp cut with ⟨rfl, parts⟩ | ⟨others, rfl, parts⟩
      · obtain ⟨rfl, rfl⟩ := List.cons.inj parts
        exact .inr ⟨isHandle, rfl⟩
      · have same : '>' :: more = others ++ c :: back := parts
        exact .inl (areArrows c (by simp [same]))

theorem IsOperator.ne_nil {operator : Text} (isOperator : IsOperator operator) : operator ≠ [] := by
  rcases isOperator with isPlain | ⟨handle, more, _, _, rfl⟩
  · have nonempty : ∀ text ∈ plainOperators, text ≠ [] := by decide
    exact nonempty operator isPlain
  · simp

theorem utf8Size_of_isOperatorPart (isPart : IsOperatorPart c behind) : c.utf8Size = 1 := by
  rcases isPart with isOperatorChar | ⟨handle, _⟩
  · have oneByte : operatorChars.all (·.utf8Size == 1) = true := by decide
    exact eq_of_beq (List.all_eq_true.mp oneByte c isOperatorChar)
  · rcases eq_of_isHandle handle with rfl | rfl | rfl <;> rfl

/-- At every character of an operator, its handle included, an operator can begin. -/
theorem exists_takes_of_isOperatorPart (before : Text) (isPart : IsOperatorPart c behind) :
    ∃ taken rest, c :: behind = taken ++ rest ∧ operator.Takes before taken rest none := by
  rcases isPart with isOperatorChar | ⟨handle, arrow⟩
  · have single : operatorChars.all (fun c => [c] ∈ plainOperators ∨ c = '>') = true := by decide
    refine ⟨[c], behind, rfl, takes_operator.mpr ⟨?_, rfl⟩⟩
    rcases of_decide_eq_true (List.all_eq_true.mp single c isOperatorChar) with isPlain | rfl
    · exact .inl isPlain
    · exact .inr ⟨[], [], .inl rfl, .inl rfl, rfl⟩
  · rcases List.head?_eq_some_iff.mp arrow with ⟨rest, rfl⟩
    refine ⟨[c, '>'], rest, rfl, takes_operator.mpr ⟨.inr ?_, rfl⟩⟩
    exact ⟨[c], [], .inr ⟨c, handle, rfl⟩, .inl rfl, rfl⟩

/-! ## Doubled operators -/

/-- Whether an operator has one of the characters that can be doubled just once, although the same
character follows. -/
def IsCutShort (operator behind : Text) : Prop :=
  ∃ c ∈ "&|>".toList, operator.count c = 1 ∧ behind.head? = some c

theorem IsRedirection.eq_arrow {text : Text} (isRedirection : IsRedirection text) :
    ∀ c ∈ text, c ∈ "&|>".toList → c = '>' := by
  rcases isRedirection with ⟨handle, more, areHandles, isMore, rfl⟩
  intro c isIn isDoubled
  rcases List.mem_append.mp isIn with inHandle | inArrows
  · rcases areHandles with rfl | ⟨d, isHandle, rfl⟩
    · exact absurd inHandle List.not_mem_nil
    · obtain rfl := List.mem_singleton.mp inHandle
      have noHandle : "&|>".toList.all (!Grammar.isHandle ·) = true := by decide
      simpa [isHandle] using List.all_eq_true.mp noHandle c isDoubled
  · rcases isMore with rfl | rfl <;> simpa using inArrows

/-- A second arrow is taken along. -/
theorem not_isCutShort_of_prefers_redirection
    (prefers : redirection.Prefers before taken behind token) : ¬IsCutShort taken behind := by
  rintro ⟨c, isDoubled, single, follows⟩
  obtain ⟨isRedirection, _⟩ := takes_redirection.mp prefers.takes
  have isIn : c ∈ taken := List.count_pos_iff.mp (by omega)
  obtain rfl := isRedirection.eq_arrow c isIn isDoubled
  rcases prefers.of_append with ⟨early, late, _, _, rfl, takesEarly, prefersLate, _⟩
  rcases prefersLate.of_orElse with second | ⟨notFound, nothing⟩
  · obtain ⟨rfl, _⟩ := takes_char.mp second.takes
    rcases takes_append.mp takesEarly with ⟨handle, arrow, _, _, rfl, _, isArrow, _⟩
    obtain ⟨rfl, _⟩ := takes_char.mp isArrow
    simp at single
  · obtain ⟨rfl, _⟩ := takes_empty.mp nothing.takes
    rcases List.head?_eq_some_iff.mp follows with ⟨rest, rfl⟩
    have cut : [] ++ '>' :: rest = ['>'] ++ rest := rfl
    exact not_takes_of_not_found notFound cut (takes_char.mpr ⟨rfl, rfl⟩)

/-- An operator of one character is not cut short where it is not found doubled. -/
theorem not_isCutShort_singleton
    (notFound : (literal [c, c]).hit? (Place.between before ([c] ++ behind)) = none) :
    ¬IsCutShort [c] behind := by
  rintro ⟨d, _, single, follows⟩
  obtain rfl : d = c := List.mem_singleton.mp (List.count_pos_iff.mp (by omega))
  rcases List.head?_eq_some_iff.mp follows with ⟨rest, rfl⟩
  have cut : [d] ++ d :: rest = [d, d] ++ rest := rfl
  exact not_takes_of_not_found notFound cut (takes_literal.mpr ⟨rfl, rfl⟩)

theorem not_isCutShort_of_prefers (prefers : operator.Prefers before taken behind token) :
    ¬IsCutShort taken behind := by
  rw [operator_eq] at prefers
  rcases prefers.of_orElse with double | ⟨noDouble, prefers⟩
  · obtain ⟨rfl, _⟩ := takes_literal.mp double.takes
    simp [IsCutShort]
  rcases prefers.of_orElse with single | ⟨_, prefers⟩
  · obtain ⟨rfl, _⟩ := takes_char.mp single.takes
    exact not_isCutShort_singleton noDouble
  rcases prefers.of_orElse with double | ⟨noDouble, prefers⟩
  · obtain ⟨rfl, _⟩ := takes_literal.mp double.takes
    simp [IsCutShort]
  rcases prefers.of_orElse with single | ⟨_, prefers⟩
  · obtain ⟨rfl, _⟩ := takes_char.mp single.takes
    exact not_isCutShort_singleton noDouble
  rcases prefers.of_orElse with isRedirection | ⟨_, prefers⟩
  · exact not_isCutShort_of_prefers_redirection isRedirection
  -- None of the other operators can be doubled.
  have others := prefers.takes
  simp only [takes_orElse, takes_char, ← or_and_right] at others
  rcases others.1 with rfl | rfl | rfl | rfl <;> simp [IsCutShort]

/-! ## What the search finds -/

theorem exists_isOperator_of_mem_findAll {text : Text} {range : ByteRange}
    (found : range ∈ operator.findAll text) :
    ∃ before taken behind, text = before ++ taken ++ behind ∧ IsOperator taken ∧
      ¬IsCutShort taken behind ∧ range = ⟨before.byteLen, (before ++ taken).byteLen⟩ := by
  rcases exists_prefers_of_mem_findAll found with ⟨before, taken, behind, token, cut, prefers, rfl⟩
  obtain ⟨isOperator, rfl⟩ := takes_operator.mp prefers.takes
  exact ⟨before, taken, behind, cut, isOperator, not_isCutShort_of_prefers prefers, rfl⟩

/-- No match passes over a character of an operator without taking it. -/
theorem exists_holds_of_isOperatorPart (isPart : IsOperatorPart c behind) :
    ∃ range ∈ operator.findAll (before ++ c :: behind),
      range.start ≤ before.byteLen ∧ before.byteLen < range.stop := by
  rcases exists_takes_of_isOperatorPart before isPart with ⟨taken, rest, cut, takes⟩
  have nonempty : taken ++ rest ≠ [] := by simp [← cut]
  rcases exists_reaching_of_takes takes nonempty with
    ⟨front, back, more, later, token, reaches, found⟩
  obtain ⟨isOperator, rfl⟩ := takes_operator.mp reaches.prefers.takes
  have positive := Text.byteLen_pos (reaches.more_ne_nil_of_taken isOperator.ne_nil)
  have ends : (pattern .operator).ReportsToEnd := reportsToEnd_pattern (by decide)
  refine ⟨⟨front.byteLen, (front ++ (back ++ more)).byteLen⟩, ?_, ?_, ?_⟩
  · change _ ∈ (pattern .operator).findAll _
    rw [ends.findAll_eq, cut]
    exact found
  · simp [reaches.before_eq]
  · simp only [reaches.before_eq, Text.byteLen_append]
    omega

/-- Every byte of a token is a character of an operator. -/
theorem IsOperator.exists_isOperatorPart {operator : Text} {offset : Nat}
    (isOperator : IsOperator operator) (starts : before.byteLen ≤ offset)
    (ends : offset < (before ++ operator).byteLen) :
    ∃ front : Text, ∃ c back, before ++ operator ++ behind = front ++ c :: back ∧
      IsOperatorPart c back ∧ offset = front.byteLen := by
  have inside : offset - before.byteLen < operator.byteLen := by
    rw [Text.byteLen_append] at ends
    omega
  rcases Text.exists_cut_of_lt_byteLen inside with ⟨passed, c, back, cut, first, last⟩
  have isPart : IsOperatorPart c (back ++ behind) := isOperator.isOperatorPart cut
  have oneByte := utf8Size_of_isOperatorPart isPart
  refine ⟨before ++ passed, c, back ++ behind, by simp [cut], isPart, ?_⟩
  rw [Text.byteLen_append]
  omega

end Grammar

open Grammar in
/-- The search for operators finds operators one behind the other, none of them cut short, and
what they cover together are the characters that make operators, and every handle that stands in
front of an arrow. -/
theorem findAll_operator (text : Text) :
    (operator.findAll text).Pairwise (fun left right => left.stop ≤ right.start) ∧
      (∀ range ∈ operator.findAll text, ∃ before taken behind,
        text = before ++ taken ++ behind ∧ IsOperator taken ∧ ¬IsCutShort taken behind ∧
          range = ⟨before.byteLen, (before ++ taken).byteLen⟩) ∧
      ∀ offset,
        (∃ range ∈ operator.findAll text, range.start ≤ offset ∧ offset < range.stop) ↔
          ∃ before : Text, ∃ c behind, text = before ++ c :: behind ∧ IsOperatorPart c behind ∧
            offset = before.byteLen := by
  refine ⟨Pattern.findAll_pairwise operator text, ?_, ?_⟩
  · intro range found
    exact exists_isOperator_of_mem_findAll found
  · intro offset
    constructor
    · rintro ⟨range, found, starts, ends⟩
      rcases exists_isOperator_of_mem_findAll found with
        ⟨before, taken, behind, rfl, isOperator, _, rfl⟩
      exact isOperator.exists_isOperatorPart starts ends
    · rintro ⟨before, c, behind, rfl, isPart, rfl⟩
      exact exists_holds_of_isOperatorPart isPart

example : Grammar.operator.findAll "12>>>&&&|3>a!".toList =
    [⟨1, 4⟩, ⟨4, 5⟩, ⟨5, 7⟩, ⟨7, 8⟩, ⟨8, 9⟩, ⟨10, 11⟩, ⟨12, 13⟩] := by
  decide +kernel

end BatchLens
