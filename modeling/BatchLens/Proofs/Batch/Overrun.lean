import BatchLens.Proofs.Batch.Grammar

/-!
# Matches that run over the end of a text

A match may begin in a text and end behind it, although its pattern also matches inside the text. If
what follows the text is an ampersand, then the token of such a match begins inside the text as well
(`start_lt_of_overruns`): the context in front of a token is too short for a whole match, or
consists of other characters.
-/

namespace BatchLens.Grammar

open Pattern

variable {before kept excess taken behind : Text} {token : Option ByteRange}

/-- A token that does not begin inside the text leaves only its context there. -/
theorem exists_rest_of_context {context body : Text}
    (cut : kept ++ excess = context ++ body)
    (outside : (before ++ kept).byteLen ≤ (before ++ context).byteLen) :
    ∃ rest, context = kept ++ rest ∧ excess = rest ++ body := by
  apply Text.cut_of_byteLen_le cut
  simp only [Text.byteLen_append] at outside
  omega

theorem countP_le_of_inside (test : Char → Bool) {passed later : Text}
    (inside : kept = passed ++ taken ++ later) : taken.countP test ≤ kept.countP test := by
  rw [inside]
  simp only [List.countP_append]
  omega

theorem countP_isSolid_of_isSpace {spaces : Text} (areSpaces : ∀ c ∈ spaces, isSpace c = true) :
    spaces.countP isSolid = 0 := by
  rw [List.countP_eq_zero]
  intro c isIn
  rw [isSolid]
  simpa [isSpace] using areSpaces c isIn

/-- A match that is its own token begins inside the text. -/
theorem start_lt_of_unmarked {category : Category} (notVariable : category ≠ .identifier)
    (overruns : (pattern category).Overruns before kept excess behind none) :
    (reported before (kept ++ excess) none).start < (before ++ kept).byteLen := by
  rcases overruns.inside with ⟨passed, taken, later, inner, rfl, takesInside⟩
  rcases exists_solid_of_takes notVariable takesInside with ⟨c, isIn, _⟩
  have positive := Text.byteLen_pos (List.ne_nil_of_mem isIn)
  simp only [reported, Option.getD_none, Text.byteLen_append]
  omega

/-- The context of a remark holds at most one character that is no white space. -/
theorem comment_start_lt_of_overruns (overruns : comment.Overruns before kept excess behind token) :
    (reported before (kept ++ excess) token).start < (before ++ kept).byteLen := by
  rcases overruns.inside with ⟨passed, taken, later, inner, inside, takesInside⟩
  have several := two_le_countP_of_takes_comment takesInside
  have keptSeveral := countP_le_of_inside isSolid inside
  rw [← Nat.not_le]
  intro outside
  rcases of_takes_comment overruns.takes with
    ⟨_, spaces, sign, opening, rest, cut, areSpaces, _, _, rfl⟩ |
    ⟨first, spaces, rest, cut, _, areSpaces, rfl⟩
  · rcases exists_rest_of_context cut outside with ⟨left, rfl, _⟩
    have none := countP_isSolid_of_isSpace areSpaces
    rw [List.countP_append] at none
    omega
  · rcases exists_rest_of_context cut outside with ⟨left, context, _⟩
    have one : (first :: spaces).countP isSolid ≤ 1 := by
      rw [List.countP_cons, countP_isSolid_of_isSpace areSpaces]
      split <;> omega
    rw [context, List.countP_append] at one
    omega

/-- The context of what is echoed holds no quote, and four characters that are no white space. -/
theorem string_start_lt_of_overruns (overruns : string.Overruns before kept excess behind token) :
    (reported before (kept ++ excess) token).start < (before ++ kept).byteLen := by
  rcases of_takes_string overruns.takes with
    ⟨rfl, _⟩ | ⟨command, spaces, first, rest, cut, isCommand, ⟨_, areSpaces⟩, _, rfl⟩
  · have overrunsString : (pattern .string).Overruns before kept excess behind none := overruns
    exact start_lt_of_unmarked (by decide) overrunsString
  · rw [← Nat.not_le]
    intro outside
    rcases exists_rest_of_context cut outside with ⟨left, context, _⟩
    rcases overruns.inside with ⟨passed, taken, later, inner, inside, takesInside⟩
    rcases quote_or_five_le_of_takes_string takesInside with ⟨quote, isIn, isQuote⟩ | five
    · have inContext : quote ∈ command ++ spaces := by simp [context, inside, isIn]
      rcases List.mem_append.mp inContext with inCommand | inSpaces
      · have inLetters : Unicode.foldToAscii quote ∈ command.map Unicode.foldToAscii :=
          List.mem_map_of_mem inCommand
        rw [isCommand] at inLetters
        rcases isQuote with rfl | rfl <;> exact absurd inLetters (by decide)
      · have isSpace := areSpaces quote inSpaces
        rcases isQuote with rfl | rfl <;> exact absurd isSpace (by decide)
    · have keptSeveral := countP_le_of_inside isSolid inside
      have letters := (isLabelChar_of_command isCommand (by decide)).2
      have four : (command ++ spaces).countP isSolid = 4 := by
        rw [List.countP_append, letters, countP_isSolid_of_isSpace areSpaces]
        rfl
      rw [context, List.countP_append] at four
      omega

/-- The context of a jump holds four characters of labels, the first of which is a letter. -/
theorem label_start_lt_of_overruns (overruns : label.Overruns before kept excess behind token)
    (ampersand : excess.head? = some '&') :
    (reported before (kept ++ excess) token).start < (before ++ kept).byteLen := by
  rw [← Nat.not_le]
  intro outside
  rcases of_takes_label overruns.takes with
    ⟨_, spaces, name, cut, areSpaces, rfl⟩ |
    ⟨command, gap, name, cut, isCommand, areGap, _, _, rfl⟩
  · rcases exists_rest_of_context cut outside with ⟨left, rfl, rfl⟩
    -- The ampersand would be white space or the colon of the label.
    cases left with
    | nil => simp at ampersand
    | cons c others =>
        obtain rfl : c = '&' := by simpa using ampersand
        exact absurd (areSpaces '&' (by simp)) (by decide)
  · rcases exists_rest_of_context cut outside with ⟨left, context, _⟩
    rcases overruns.inside with ⟨passed, taken, later, inner, inside, takesInside⟩
    rcases colon_or_five_le_of_takes_label takesInside with ⟨atStart, c, isHead, isLead⟩ | five
    · obtain ⟨rfl, rfl⟩ := List.append_eq_nil_iff.mp atStart
      rcases List.head?_eq_some_iff.mp isHead with ⟨others, rfl⟩
      rcases List.map_eq_cons_iff.mp isCommand with ⟨first, letters, rfl, isLetter, _⟩
      obtain rfl : first = c := by
        rw [inside] at context
        exact (List.cons.inj context).1
      rcases isLead with isSpace | rfl
      · rw [foldToAscii_of_isSpace isSpace] at isLetter
        subst isLetter
        exact absurd isSpace (by decide)
      · exact absurd isLetter (by decide)
    · have keptSeveral := countP_le_of_inside isLabelChar inside
      have letters := (isLabelChar_of_command isCommand (by decide)).1
      have none : gap.countP isLabelChar = 0 := by
        rw [List.countP_eq_zero]
        intro c isIn
        simp [isLabelChar_eq_false (areGap c isIn)]
      have four : (command ++ gap).countP isLabelChar = 4 := by
        rw [List.countP_append, letters, none]
        rfl
      rw [context, List.countP_append] at four
      omega

/-- A match that runs over the end of a text into an ampersand, although the pattern also matches
inside the text, has a token that begins inside the text. -/
theorem start_lt_of_overruns {category : Category} (notVariable : category ≠ .identifier)
    (overruns : (pattern category).Overruns before kept excess behind token)
    (ampersand : excess.head? = some '&') :
    (reported before (kept ++ excess) token).start < (before ++ kept).byteLen := by
  have takesAmpersand : '&' ∈ kept ++ excess :=
    List.mem_append_right kept (List.mem_of_mem_head? ampersand)
  cases category with
  | comment => exact comment_start_lt_of_overruns overruns
  | string => exact string_start_lt_of_overruns overruns
  | keyword => exact absurd takesAmpersand (not_takes_ampersand (.inl rfl) overruns.takes)
  | operator =>
      obtain rfl := (of_takes_operator overruns.takes).1
      exact start_lt_of_unmarked notVariable overruns
  | parameter => exact absurd takesAmpersand (not_takes_ampersand (.inr rfl) overruns.takes)
  | identifier => exact absurd rfl notVariable
  | label => exact label_start_lt_of_overruns overruns ampersand

end BatchLens.Grammar
