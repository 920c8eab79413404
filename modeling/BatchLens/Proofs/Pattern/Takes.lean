import BatchLens.Proofs.Pattern

/-!
# What a pattern can take

A match is looked at as a relation between the text that is taken, the texts before and behind it,
and the token that is marked. The relation has one equation for each kind of pattern, none of which
speaks of places any more, so that what a pattern of the grammar can take is computed from its
parts. The relation forgets which match is preferred.
-/

namespace BatchLens

/-- Whether a word begins or ends between two texts. -/
def Text.BordersWord (before behind : Text) : Prop :=
  (Place.between before behind).atWordBoundary = true

namespace Text

/-- A word ends where no further character of a word follows. -/
theorem bordersWord_iff {before word behind : Text} (nonempty : word ≠ [])
    (areWordChars : ∀ c ∈ word, Unicode.isWordChar c = true) :
    BordersWord (before ++ word) behind ↔ ∀ c ∈ behind.head?, Unicode.isWordChar c = false := by
  rcases List.getLast?_eq_some_iff.mp (List.getLast?_eq_some_getLast nonempty) with ⟨front, last⟩
  have lastIsWord := areWordChars _ (List.getLast_mem nonempty)
  rw [last, BordersWord, Place.atWordBoundary]
  cases behind <;> simp [Place.between, lastIsWord]

/-- A word begins where no character of a word stands in front. -/
theorem bordersWord_iff_of_word_behind {before word behind : Text} (nonempty : word ≠ [])
    (areWordChars : ∀ c ∈ word, Unicode.isWordChar c = true) :
    BordersWord before (word ++ behind) ↔
      ∀ c ∈ before.getLast?, Unicode.isWordChar c = false := by
  rcases List.exists_cons_of_ne_nil nonempty with ⟨first, others, rfl⟩
  have firstIsWord := areWordChars first List.mem_cons_self
  rw [BordersWord, Place.atWordBoundary]
  cases last : before.getLast? <;> simp [Place.between, last, firstIsWord]

/-- Inside a word no word ends. -/
theorem eq_nil_of_bordersWord {before word more behind : Text} (nonempty : word ≠ [])
    (areWordChars : ∀ c ∈ word ++ more, Unicode.isWordChar c = true)
    (ends : BordersWord (before ++ word) (more ++ behind)) : more = [] := by
  rcases List.forall_mem_append.mp areWordChars with ⟨wordIsWord, moreIsWord⟩
  cases more with
  | nil => rfl
  | cons c others =>
      have noWord := (bordersWord_iff nonempty wordIsWord).mp ends c rfl
      rw [moreIsWord c List.mem_cons_self] at noWord
      exact Bool.noConfusion noWord

theorem bordersWord_nil {before word : Text} (nonempty : word ≠ [])
    (areWordChars : ∀ c ∈ word, Unicode.isWordChar c = true) : BordersWord (before ++ word) [] :=
  (bordersWord_iff nonempty areWordChars).mpr (by simp)

end Text

namespace Pattern

/-- Whether a pattern can take the text between two others, with this token marked. -/
def Takes (pattern : Pattern) (before taken behind : Text) (token : Option ByteRange) : Prop :=
  Hit.mk (Place.between (before ++ taken) behind) token ∈
    pattern.hits (Place.between before (taken ++ behind))

/-- Two places in one text are the same only if they are reached over the same characters. -/
theorem taken_eq_of_between_eq {before taken behind taken' behind' : Text}
    (sameText : taken ++ behind = taken' ++ behind')
    (samePlace : Place.between (before ++ taken) behind =
      Place.between (before ++ taken') behind') :
    taken = taken' ∧ behind = behind' := by
  have sameRest : behind = behind' := congrArg Place.rest samePlace
  subst sameRest
  exact ⟨List.append_cancel_right sameText, rfl⟩

/-- Every match takes some of the text behind its place. -/
theorem exists_takes_of_mem_hits {pattern : Pattern} {before behind : Text} {hit : Hit}
    (isHit : hit ∈ pattern.hits (Place.between before behind)) :
    ∃ taken rest, behind = taken ++ rest ∧ hit.place = Place.between (before ++ taken) rest ∧
      pattern.Takes before taken rest hit.token := by
  rcases takesFrom_of_mem_hits isHit with ⟨taken, rest, rfl, place, _⟩
  refine ⟨taken, rest, rfl, place, ?_⟩
  rw [Takes, ← place]
  exact isHit

/-- The token that is marked lies in what is taken. -/
theorem Takes.token_within {pattern : Pattern} {before taken behind : Text} {range : ByteRange}
    (takes : pattern.Takes before taken behind (some range)) :
    before.byteLen ≤ range.start ∧ range.stop ≤ (before ++ taken).byteLen := by
  rcases takesFrom_of_mem_hits takes with ⟨taken', rest, sameText, place, marks⟩
  obtain ⟨rfl, rfl⟩ := taken_eq_of_between_eq sameText place
  rcases marks range rfl with ⟨front, token, back, rfl, rfl⟩
  simp only [Text.byteLen_append]
  omega

/-! ## One equation for each kind of pattern -/

section Equations

variable {before taken behind : Text} {token : Option ByteRange}

/-- A match that takes nothing. -/
theorem takes_nothing_iff :
    Hit.mk (Place.between (before ++ taken) behind) token =
        ⟨Place.between before (taken ++ behind), none⟩ ↔ taken = [] ∧ token = none := by
  constructor
  · intro same
    rw [Hit.mk.injEq] at same
    have sameRest := congrArg Place.rest same.1
    exact ⟨List.self_eq_append_left.mp sameRest, same.2⟩
  · rintro ⟨rfl, rfl⟩
    rw [List.append_nil, List.nil_append]

@[simp]
theorem takes_empty : empty.Takes before taken behind token ↔ taken = [] ∧ token = none := by
  rw [Takes, hits, List.mem_singleton, takes_nothing_iff]

@[simp]
theorem takes_textStart :
    textStart.Takes before taken behind token ↔ before = [] ∧ taken = [] ∧ token = none := by
  rw [Takes, hits, List.mem_ite_nil_right, List.mem_singleton, takes_nothing_iff]
  apply and_congr_left
  intro _
  exact Text.byteLen_eq_zero_iff

@[simp]
theorem takes_wordBoundary :
    wordBoundary.Takes before taken behind token ↔
      before.BordersWord behind ∧ taken = [] ∧ token = none := by
  rw [Takes, hits, List.mem_ite_nil_right, List.mem_singleton, takes_nothing_iff]
  apply and_congr_left
  rintro ⟨rfl, _⟩
  rfl

theorem hits_one_nil (test : Char → Bool) (before : Text) :
    (one test).hits (Place.between before []) = [] := rfl

theorem hits_one_cons (test : Char → Bool) (before : Text) (c : Char) (rest : Text) :
    (one test).hits (Place.between before (c :: rest)) =
      if test c then [⟨Place.between (before ++ [c]) rest, none⟩] else [] := by
  rw [← Place.after_between]
  rfl

@[simp]
theorem takes_one {test : Char → Bool} :
    (one test).Takes before taken behind token ↔
      ∃ c, test c = true ∧ taken = [c] ∧ token = none := by
  rw [Takes]
  cases taken with
  | nil =>
      cases behind with
      | nil => simp [hits_one_nil]
      | cons c rest =>
          rw [List.nil_append, hits_one_cons, List.mem_ite_nil_right]
          simp [Place.between]
  | cons d others =>
      rw [List.cons_append, hits_one_cons, List.mem_ite_nil_right, List.mem_singleton,
        Hit.mk.injEq]
      constructor
      · rintro ⟨passes, samePlace, rfl⟩
        have sameText : d :: others ++ behind = [d] ++ (others ++ behind) := rfl
        exact ⟨d, passes, (taken_eq_of_between_eq sameText samePlace).1, rfl⟩
      · rintro ⟨c, passes, isTaken, rfl⟩
        obtain ⟨rfl, rfl⟩ := List.cons.inj isTaken
        exact ⟨passes, rfl, rfl⟩

@[simp]
theorem takes_many {test : Char → Bool} :
    (many test).Takes before taken behind token ↔
      (∀ c ∈ taken, test c = true) ∧ token = none := by
  rw [Takes, hits, List.mem_map]
  constructor
  · rintro ⟨reached, isReached, same⟩
    rw [Hit.mk.injEq] at same
    rcases mem_runs.mp isReached with isNearer | ⟨taken', rest, sameText, pass, place⟩
    · exact absurd isNearer List.not_mem_nil
    · obtain ⟨rfl, rfl⟩ := taken_eq_of_between_eq sameText (same.1.symm.trans place)
      exact ⟨pass, same.2.symm⟩
  · rintro ⟨pass, rfl⟩
    exact ⟨_, mem_runs.mpr (.inr ⟨taken, behind, rfl, pass, rfl⟩), rfl⟩

theorem takes_seq {first second : Pattern} :
    (seq first second).Takes before taken behind token ↔
      ∃ early late earlyToken lateToken, taken = early ++ late ∧
        first.Takes before early (late ++ behind) earlyToken ∧
        second.Takes (before ++ early) late behind lateToken ∧
        token = earlyToken.or lateToken := by
  constructor
  · intro takes
    rcases List.mem_flatMap.mp takes with ⟨firstHit, isFirst, inSecond⟩
    rcases List.mem_map.mp inSecond with ⟨secondHit, isSecond, same⟩
    rcases exists_takes_of_mem_hits isFirst with ⟨early, between, cut, firstPlace, firstTakes⟩
    rw [firstPlace] at isSecond
    rcases exists_takes_of_mem_hits isSecond with ⟨late, rest, rfl, secondPlace, secondTakes⟩
    rw [Hit.mk.injEq, secondPlace, List.append_assoc] at same
    rw [← List.append_assoc] at cut
    obtain ⟨rfl, rfl⟩ := taken_eq_of_between_eq cut same.1.symm
    exact ⟨early, late, _, _, rfl, firstTakes, secondTakes, same.2.symm⟩
  · rintro ⟨early, late, earlyToken, lateToken, rfl, firstTakes, secondTakes, rfl⟩
    rw [Takes] at firstTakes secondTakes
    rw [Takes, hits, List.append_assoc]
    refine List.mem_flatMap.mpr ⟨_, firstTakes, List.mem_map.mpr ⟨_, secondTakes, ?_⟩⟩
    rw [List.append_assoc]

theorem takes_append {first second : Pattern} :
    (first ++ second).Takes before taken behind token ↔
      ∃ early late earlyToken lateToken, taken = early ++ late ∧
        first.Takes before early (late ++ behind) earlyToken ∧
        second.Takes (before ++ early) late behind lateToken ∧
        token = earlyToken.or lateToken :=
  takes_seq

@[simp]
theorem takes_orElse {first second : Pattern} :
    (first <|> second).Takes before taken behind token ↔
      first.Takes before taken behind token ∨ second.Takes before taken behind token :=
  List.mem_append

@[simp]
theorem takes_token {body : Pattern} :
    (Pattern.token body).Takes before taken behind token ↔
      (∃ inner, body.Takes before taken behind inner) ∧
        token = some ⟨before.byteLen, (before ++ taken).byteLen⟩ := by
  rw [Takes, hits, List.mem_map]
  constructor
  · rintro ⟨hit, isHit, same⟩
    rw [Hit.mk.injEq] at same
    refine ⟨⟨hit.token, ?_⟩, ?_⟩
    · rw [Takes, ← same.1]
      exact isHit
    · rw [← same.2, same.1]
      rfl
  · rintro ⟨⟨inner, takes⟩, rfl⟩
    exact ⟨_, takes, rfl⟩

/-! ## Derived patterns -/

@[simp]
theorem takes_oneOrMore {test : Char → Bool} :
    (oneOrMore test).Takes before taken behind token ↔
      taken ≠ [] ∧ (∀ c ∈ taken, test c = true) ∧ token = none := by
  rw [oneOrMore, takes_append]
  constructor
  · rintro ⟨early, late, earlyToken, lateToken, rfl, takesOne, takesMany, rfl⟩
    obtain ⟨c, passes, rfl, rfl⟩ := takes_one.mp takesOne
    obtain ⟨pass, rfl⟩ := takes_many.mp takesMany
    exact ⟨by simp, by simpa using ⟨passes, pass⟩, rfl⟩
  · rintro ⟨nonempty, pass, rfl⟩
    rcases List.exists_cons_of_ne_nil nonempty with ⟨c, rest, rfl⟩
    rw [List.forall_mem_cons] at pass
    exact ⟨[c], rest, none, none, rfl, takes_one.mpr ⟨c, pass.1, rfl, rfl⟩,
      takes_many.mpr ⟨pass.2, rfl⟩, rfl⟩

@[simp]
theorem takes_maybe {body : Pattern} :
    (maybe body).Takes before taken behind token ↔
      body.Takes before taken behind token ∨ (taken = [] ∧ token = none) := by
  rw [maybe, takes_orElse, takes_empty]

@[simp]
theorem takes_char {c : Char} :
    (char c).Takes before taken behind token ↔ taken = [c] ∧ token = none := by
  rw [char, takes_one]
  simp

@[simp]
theorem takes_literal {spelled : Text} :
    (literal spelled).Takes before taken behind token ↔ taken = spelled ∧ token = none := by
  induction spelled generalizing before taken behind token with
  | nil => rw [literal, takes_empty]
  | cons c rest ih =>
      rw [literal, takes_append]
      constructor
      · rintro ⟨early, late, earlyToken, lateToken, rfl, takesFirst, takesRest, rfl⟩
        obtain ⟨rfl, rfl⟩ := takes_char.mp takesFirst
        obtain ⟨rfl, rfl⟩ := ih.mp takesRest
        exact ⟨rfl, rfl⟩
      · rintro ⟨rfl, rfl⟩
        exact ⟨[c], rest, none, none, rfl, takes_char.mpr ⟨rfl, rfl⟩, ih.mpr ⟨rfl, rfl⟩, rfl⟩

@[simp]
theorem takes_anyOf {patterns : List Pattern} :
    (anyOf patterns).Takes before taken behind token ↔
      ∃ pattern ∈ patterns, pattern.Takes before taken behind token := by
  fun_induction anyOf patterns with
  | case1 => simp
  | case2 pattern => simp
  | case3 pattern others _ ih => simp [ih]

end Equations

end Pattern

end BatchLens
