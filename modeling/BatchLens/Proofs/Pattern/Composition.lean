import BatchLens.Proofs.Pattern.Search

/-!
# Composed patterns

Properties of a pattern that are read off its parts: whether it marks a token, with what kind of
characters its matches begin (`BeginsWith`), and its hits when its parts are put together in another
way. A search depends on the hits alone (`findAll_congr`).
-/

namespace BatchLens.Pattern

/-- Whether a pattern marks no token. -/
def marksNothing : Pattern → Bool
  | empty | textStart | wordBoundary | one _ | many _ => true
  | seq first second | either first second => first.marksNothing && second.marksNothing
  | token _ => false

/-- Whether a pattern takes something wherever it matches, and this begins with a character that
passes the test. -/
def BeginsWith (pattern : Pattern) (test : Char → Bool) : Prop :=
  ∀ before taken behind token, pattern.Takes before taken behind token →
    ∃ c ∈ taken.head?, test c = true

variable {pattern first second : Pattern} {patterns : List Pattern} {test other : Char → Bool}
  {before taken behind : Text} {token : Option ByteRange}

theorem token_eq_none_of_takes (unmarked : pattern.marksNothing = true)
    (takes : pattern.Takes before taken behind token) : token = none := by
  induction pattern generalizing before taken behind token with
  | empty => exact (takes_empty.mp takes).2
  | textStart => exact (takes_textStart.mp takes).2.2
  | wordBoundary => exact (takes_wordBoundary.mp takes).2.2
  | one test =>
      rcases takes_one.mp takes with ⟨_, _, _, isNone⟩
      exact isNone
  | many test => exact (takes_many.mp takes).2
  | seq first second ihFirst ihSecond =>
      rw [marksNothing, Bool.and_eq_true] at unmarked
      rcases takes_seq.mp takes with ⟨_, _, _, _, _, takesFirst, takesSecond, rfl⟩
      rw [ihFirst unmarked.1 takesFirst, ihSecond unmarked.2 takesSecond, Option.or_none]
  | either first second ihFirst ihSecond =>
      rw [marksNothing, Bool.and_eq_true] at unmarked
      rcases takes_orElse.mp takes with takesFirst | takesSecond
      · exact ihFirst unmarked.1 takesFirst
      · exact ihSecond unmarked.2 takesSecond
  | token body _ => exact absurd unmarked Bool.false_ne_true

namespace BeginsWith

theorem one (passes : ∀ c, other c = true → test c = true) :
    (Pattern.one other).BeginsWith test := by
  intro before taken behind token takes
  rcases takes_one.mp takes with ⟨c, isOther, rfl, _⟩
  exact ⟨c, rfl, passes c isOther⟩

theorem char {c : Char} (passes : test c = true) : (Pattern.char c).BeginsWith test := by
  apply one
  intro d same
  rwa [eq_of_beq same]

theorem append (begins : first.BeginsWith test) : (first ++ second).BeginsWith test := by
  intro before taken behind token takes
  rcases takes_append.mp takes with ⟨early, late, _, _, rfl, takesFirst, _, _⟩
  rcases begins _ _ _ _ takesFirst with ⟨c, isHead, passes⟩
  exact ⟨c, by simp [Option.mem_def.mp isHead], passes⟩

theorem orElse (begins : first.BeginsWith test) (begins' : second.BeginsWith test) :
    (first <|> second).BeginsWith test := by
  intro before taken behind token takes
  rcases takes_orElse.mp takes with takesFirst | takesSecond
  · exact begins _ _ _ _ takesFirst
  · exact begins' _ _ _ _ takesSecond

theorem maybe_append (begins : first.BeginsWith test) (begins' : second.BeginsWith test) :
    (maybe first ++ second).BeginsWith test := by
  intro before taken behind token takes
  rcases takes_append.mp takes with ⟨early, late, _, _, rfl, takesFirst, takesSecond, _⟩
  rcases takes_maybe.mp takesFirst with takesFirst | ⟨rfl, _⟩
  · rcases begins _ _ _ _ takesFirst with ⟨c, isHead, passes⟩
    exact ⟨c, by simp [Option.mem_def.mp isHead], passes⟩
  · exact begins' _ _ _ _ takesSecond

theorem anyOf (begin : ∀ pattern ∈ patterns, pattern.BeginsWith test) :
    (Pattern.anyOf patterns).BeginsWith test := by
  intro before taken behind token takes
  rcases takes_anyOf.mp takes with ⟨pattern, isOne, takesOne⟩
  exact begin pattern isOne _ _ _ _ takesOne

end BeginsWith

/-! ## Hits of composed patterns -/

theorem hits_append (first second : Pattern) (place : Place) :
    (first ++ second).hits place = (first.hits place).flatMap fun hit =>
      (second.hits hit.place).map fun next => ⟨next.place, hit.token.or next.token⟩ := rfl

theorem hits_orElse (first second : Pattern) (place : Place) :
    (first <|> second).hits place = first.hits place ++ second.hits place := rfl

theorem hits_append_assoc (first second third : Pattern) (place : Place) :
    (first ++ second ++ third).hits place = (first ++ (second ++ third)).hits place := by
  simp [hits_append, List.flatMap_assoc, List.flatMap_map, List.map_flatMap, Option.or_assoc,
    Function.comp_def]

theorem hits_append_empty (first : Pattern) (place : Place) :
    (first ++ empty).hits place = first.hits place := by
  simp [hits_append, hits]

theorem hits_empty_append (second : Pattern) (place : Place) :
    (empty ++ second).hits place = second.hits place := by
  simp [hits_append, hits]

theorem hits_anyOf (patterns : List Pattern) (place : Place) :
    (anyOf patterns).hits place = patterns.flatMap fun pattern => pattern.hits place := by
  fun_induction anyOf patterns with
  | case1 =>
      rw [hits, List.flatMap_nil]
      split <;> rfl
  | case2 pattern => rw [List.flatMap_singleton]
  | case3 pattern others _ ih =>
      rw [List.flatMap_cons, ← ih]
      rfl

theorem hit?_anyOf (patterns : List Pattern) (place : Place) :
    (anyOf patterns).hit? place = patterns.findSome? fun pattern => pattern.hit? place := by
  rw [hit?, hits_anyOf, List.head?_flatMap]
  rfl

/-- A search depends on nothing but the hits of its pattern. -/
theorem findAll_congr (same : ∀ place, first.hits place = second.hits place) (text : Text) :
    first.findAll text = second.findAll text := by
  have sameFrom (previous : Option Char) (offset resume : Nat) :
      first.tokensFrom previous offset resume text =
        second.tokensFrom previous offset resume text := by
    induction text generalizing previous offset resume with
    | nil => rfl
    | cons c rest ih => simp only [tokensFrom, hit?, same, ih]
  rw [findAll, findAll, sameFrom]

end BatchLens.Pattern
