import BatchLens.Proofs.Pattern.Search

/-!
# What a search cannot miss

A search leaves a match out only for the sake of another one, which began further to the front and
takes something at the place of the match as well (`exists_reaching_of_takes`). So wherever no
match of a pattern reaches into the beginning of another one, every match is found.
-/

namespace BatchLens.Pattern

variable {pattern : Pattern} {resume : Nat} {before passed taken later : Text}
  {token : Option ByteRange}

/-- A match at the place between two texts, or one that begins in the text in front and takes
something of the text behind. -/
structure Reaches (pattern : Pattern) (before behind front back more rest : Text)
    (token : Option ByteRange) : Prop where
  before_eq : before = front ++ back
  behind_eq : behind = more ++ rest
  prefers : pattern.Prefers front (back ++ more) rest token
  more_ne_nil : back ≠ [] → more ≠ []

/-- A match that takes something takes some of the text behind. -/
theorem Reaches.more_ne_nil_of_taken {behind front back more rest : Text}
    (reaches : pattern.Reaches before behind front back more rest token)
    (nonempty : back ++ more ≠ []) : more ≠ [] := by
  cases back with
  | nil => exact nonempty
  | cons first passed => exact reaches.more_ne_nil (List.cons_ne_nil first passed)

/-- No match reaches over the place at which another one begins, if what it takes behind its first
character is of one kind, and the other one begins with a character of another kind. -/
theorem Reaches.back_eq_nil {behind front back more rest : Text} {test : Char → Bool}
    (reaches : pattern.Reaches before behind front back more rest token)
    (fails : ∀ c ∈ behind.head?, test c = false)
    (passes : ∀ c ∈ (back ++ more).tail, test c = true) : back = [] := by
  cases back with
  | nil => rfl
  | cons first passed =>
      rcases List.exists_cons_of_ne_nil (reaches.more_ne_nil (List.cons_ne_nil first passed)) with
        ⟨c, others, rfl⟩
      have inTail : test c = true := passes c (by simp)
      rw [fails c (by simp [reaches.behind_eq])] at inTail
      exact Bool.noConfusion inTail

theorem exists_reaching_between (takes : pattern.Takes (before ++ passed) taken later token)
    (nonempty : taken ++ later ≠ []) (outside : resume ≤ (before ++ passed).byteLen) :
    ∃ front back more rest token',
      pattern.Reaches (before ++ passed) (taken ++ later) (before ++ front) back more rest token' ∧
        reported (before ++ front) (back ++ more) token' ∈
          pattern.tokensBetween resume before (passed ++ (taken ++ later)) := by
  induction passed generalizing before resume with
  | nil =>
      rcases exists_prefers_of_takes takes with ⟨more, rest, token', cut, prefers⟩
      rcases List.exists_cons_of_ne_nil nonempty with ⟨c, others, first⟩
      simp only [List.append_nil] at prefers outside
      refine ⟨[], [], more, rest, token', ⟨by simp, cut, by simpa using prefers, by simp⟩, ?_⟩
      rw [first] at cut
      simp [first, tokensBetween_of_prefers outside cut prefers]
  | cons c others ih =>
      -- What is found behind the first character is found with that character in front.
      have later' {resume' : Nat} (outside' : resume' ≤ (before ++ c :: others).byteLen) :
          ∃ front back more rest token',
            pattern.Reaches (before ++ c :: others) (taken ++ later) (before ++ front) back more
              rest token' ∧
            reported (before ++ front) (back ++ more) token' ∈
              pattern.tokensBetween resume' (before ++ [c]) (others ++ (taken ++ later)) := by
        rw [List.append_cons] at takes outside'
        rcases ih takes outside' with ⟨front, back, more, rest, token', reaches, found⟩
        refine ⟨c :: front, back, more, rest, token', ?_, ?_⟩
        · simpa using reaches
        · simpa using found
      rcases tokensBetween_cases pattern resume before c (others ++ (taken ++ later)) with
        passes | ⟨matched, rest, token', _, cut, prefers, reports⟩
      · rw [List.cons_append, passes]
        exact later' outside
      · rw [List.cons_append, reports]
        rcases Nat.lt_or_ge (before ++ c :: others).byteLen (before ++ matched).byteLen with
          isOver | within
        · have shorter : Text.byteLen (c :: others) ≤ Text.byteLen matched := by
            simp only [Text.byteLen_append] at isOver
            omega
          rcases Text.cut_of_byteLen_le cut shorter with ⟨more, rfl, parts⟩
          refine ⟨[], c :: others, more, rest, token', ⟨by simp, parts, ?_, ?_⟩, ?_⟩
          · simpa using prefers
          · rintro _ rfl
            simp at isOver
          · simp
        · rcases later' within with ⟨front, back, more, rest', token'', reaches, found⟩
          exact ⟨front, back, more, rest', token'', reaches, List.mem_cons_of_mem _ found⟩

/-- Where a pattern can match, a search reports a match that begins there, or one that begins
further to the front and reaches over that place. -/
theorem exists_reaching_of_takes (takes : pattern.Takes before taken later token)
    (nonempty : taken ++ later ≠ []) :
    ∃ front back more rest token',
      pattern.Reaches before (taken ++ later) front back more rest token' ∧
        reported front (back ++ more) token' ∈
          pattern.tokensBetween 0 [] (before ++ (taken ++ later)) := by
  have fromStart : pattern.Takes ([] ++ before) taken later token := takes
  exact exists_reaching_between fromStart nonempty (Nat.zero_le _)

end BatchLens.Pattern
