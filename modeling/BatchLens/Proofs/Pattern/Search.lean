import BatchLens.Proofs.Pattern.Takes

/-!
# The order of tokens

A search resumes where the last match ended, and the token of a match lies inside it. So the tokens
of a text lie one behind the other (`findAll_pairwise`), whatever the pattern is, and each is
reported for a preferred match (`exists_prefers_of_mem_findAll`). The search is described from a
place between two texts on, where it either passes over a character or reports a match
(`tokensBetween_cases`); the first match that it reports is at the first place that has one
(`tokensBetween_first`).
-/

namespace BatchLens

namespace Pattern

/-- Whether a pattern prefers to take the text between two others, with this token marked. -/
def Prefers (pattern : Pattern) (before taken behind : Text) (token : Option ByteRange) : Prop :=
  pattern.hit? (Place.between before (taken ++ behind)) =
    some ⟨Place.between (before ++ taken) behind, token⟩

/-- What a match reports: its token, or else all that it takes. -/
def reported (before taken : Text) (token : Option ByteRange) : ByteRange :=
  token.getD ⟨before.byteLen, (before ++ taken).byteLen⟩

theorem Takes.reported_within {pattern : Pattern} {before taken behind : Text}
    {token : Option ByteRange} (takes : pattern.Takes before taken behind token) :
    before.byteLen ≤ (reported before taken token).start ∧
      (reported before taken token).stop ≤ (before ++ taken).byteLen := by
  cases token with
  | none => exact ⟨Nat.le_refl _, Nat.le_refl _⟩
  | some range => exact takes.token_within

/-- The tokens that are found from a place between two texts on. -/
def tokensBetween (pattern : Pattern) (resume : Nat) (before behind : Text) : List ByteRange :=
  pattern.tokensFrom before.getLast? before.byteLen resume behind

variable {pattern : Pattern} {resume : Nat} {before taken behind rest : Text} {c : Char}
  {token : Option ByteRange} {range : ByteRange}

theorem Prefers.takes (prefers : pattern.Prefers before taken behind token) :
    pattern.Takes before taken behind token :=
  List.mem_of_mem_head? prefers

/-- Where a pattern matches, it prefers to take some of the text behind its place. -/
theorem exists_prefers_of_hit? {hit : Hit}
    (found : pattern.hit? (Place.between before behind) = some hit) :
    ∃ taken later, behind = taken ++ later ∧ pattern.Prefers before taken later hit.token := by
  rcases exists_takes_of_mem_hits (List.mem_of_mem_head? found) with
    ⟨taken, later, rfl, place, _⟩
  refine ⟨taken, later, rfl, ?_⟩
  rw [Prefers, found, ← place]

/-- Where a pattern can match, it prefers some match. -/
theorem exists_prefers_of_takes (takes : pattern.Takes before taken behind token) :
    ∃ taken' behind' token', taken ++ behind = taken' ++ behind' ∧
      pattern.Prefers before taken' behind' token' := by
  cases found : pattern.hit? (Place.between before (taken ++ behind)) with
  | none => exact absurd takes (by simp [Takes, List.head?_eq_none_iff.mp found])
  | some hit =>
      rcases exists_prefers_of_hit? found with ⟨taken', behind', cut, prefers⟩
      exact ⟨taken', behind', hit.token, cut, prefers⟩

theorem not_takes_of_not_found (notFound : pattern.hit? (Place.between before rest) = none)
    (cut : rest = taken ++ behind) : ¬pattern.Takes before taken behind token := by
  intro takes
  rw [hit?, List.head?_eq_none_iff, cut] at notFound
  rw [Takes, notFound] at takes
  exact List.not_mem_nil takes

theorem hit?_orElse (first second : Pattern) (place : Place) :
    (first <|> second).hit? place = (first.hit? place).or (second.hit? place) :=
  List.head?_append

/-- The first of two patterns is preferred wherever it matches. -/
theorem Prefers.of_orElse {first second : Pattern}
    (prefers : (first <|> second).Prefers before taken behind token) :
    first.Prefers before taken behind token ∨
      first.hit? (Place.between before (taken ++ behind)) = none ∧
        second.Prefers before taken behind token := by
  rw [Prefers, hit?_orElse, Option.or_eq_some_iff] at prefers
  exact prefers

/-- In a sequence the second pattern takes what it prefers behind the first one. -/
theorem Prefers.of_append {first second : Pattern}
    (prefers : (first ++ second).Prefers before taken behind token) :
    ∃ early late earlyToken lateToken, taken = early ++ late ∧
      first.Takes before early (late ++ behind) earlyToken ∧
      second.Prefers (before ++ early) late behind lateToken ∧
      token = earlyToken.or lateToken := by
  have inSeq : (seq first second).hit? (Place.between before (taken ++ behind)) =
      some ⟨Place.between (before ++ taken) behind, token⟩ := prefers
  rw [hit?, hits, List.head?_flatMap] at inSeq
  rcases List.exists_of_findSome?_eq_some inSeq with ⟨firstHit, isFirst, isHead⟩
  rcases exists_takes_of_mem_hits isFirst with ⟨early, between, cut, firstPlace, firstTakes⟩
  rw [List.head?_map, firstPlace, Option.map_eq_some_iff] at isHead
  rcases isHead with ⟨secondHit, isSecond, same⟩
  rcases exists_prefers_of_hit? isSecond with ⟨late, rest, rfl, secondPrefers⟩
  have secondPlace : secondHit.place = Place.between (before ++ early ++ late) rest := by
    rw [Prefers] at secondPrefers
    rw [Option.some.inj (isSecond.symm.trans secondPrefers)]
  rw [Hit.mk.injEq, secondPlace, List.append_assoc] at same
  rw [← List.append_assoc] at cut
  obtain ⟨rfl, rfl⟩ := taken_eq_of_between_eq cut same.1.symm
  exact ⟨early, late, _, _, rfl, firstTakes, secondPrefers, same.2.symm⟩

/-! ## One step of a search -/

theorem tokensFrom_behind :
    pattern.tokensFrom (some c) (before.byteLen + c.utf8Size) resume rest =
      pattern.tokensBetween resume (before ++ [c]) rest := by
  simp [tokensBetween]

@[simp]
theorem tokensBetween_nil : pattern.tokensBetween resume before [] = [] := rfl

/-- Inside the last match no match begins. -/
theorem tokensBetween_of_lt (inside : before.byteLen < resume) :
    pattern.tokensBetween resume before (c :: rest) =
      pattern.tokensBetween resume (before ++ [c]) rest := by
  rw [tokensBetween, tokensFrom, if_pos inside, tokensFrom_behind]

theorem tokensBetween_of_not_found
    (notFound : pattern.hit? (Place.between before (c :: rest)) = none) :
    pattern.tokensBetween resume before (c :: rest) =
      pattern.tokensBetween resume (before ++ [c]) rest := by
  rw [Place.between] at notFound
  rw [tokensBetween, tokensFrom, notFound]
  simp only [tokensFrom_behind, ite_self]

/-- Where a pattern matches, its preferred match is reported. -/
theorem tokensBetween_of_prefers (outside : resume ≤ before.byteLen)
    (cut : c :: rest = taken ++ behind) (prefers : pattern.Prefers before taken behind token) :
    pattern.tokensBetween resume before (c :: rest) =
      reported before taken token ::
        pattern.tokensBetween (before ++ taken).byteLen (before ++ [c]) rest := by
  rw [Prefers, ← cut, Place.between] at prefers
  rw [tokensBetween, tokensFrom, if_neg (Nat.not_lt.mpr outside), prefers]
  simp only [tokensFrom_behind]
  rfl

/-- At every place the search passes over a character, or reports a match. -/
theorem tokensBetween_cases (pattern : Pattern) (resume : Nat) (before : Text) (c : Char)
    (rest : Text) :
    pattern.tokensBetween resume before (c :: rest) =
        pattern.tokensBetween resume (before ++ [c]) rest ∨
      ∃ taken behind token, resume ≤ before.byteLen ∧ c :: rest = taken ++ behind ∧
        pattern.Prefers before taken behind token ∧
        pattern.tokensBetween resume before (c :: rest) =
          reported before taken token ::
            pattern.tokensBetween (before ++ taken).byteLen (before ++ [c]) rest := by
  rcases Nat.lt_or_ge before.byteLen resume with inside | outside
  · exact .inl (tokensBetween_of_lt inside)
  · cases found : pattern.hit? (Place.between before (c :: rest)) with
    | none => exact .inl (tokensBetween_of_not_found found)
    | some hit =>
        rcases exists_prefers_of_hit? found with ⟨taken, behind, cut, prefers⟩
        exact .inr ⟨taken, behind, hit.token, outside, cut, prefers,
          tokensBetween_of_prefers outside cut prefers⟩

/-! ## All steps of a search -/

theorem tokensBetween_append_of_le {passed : Text} (inside : (before ++ passed).byteLen ≤ resume) :
    pattern.tokensBetween resume before (passed ++ rest) =
      pattern.tokensBetween resume (before ++ passed) rest := by
  induction passed generalizing before with
  | nil => rw [List.nil_append, List.append_nil]
  | cons c others ih =>
      have start : before.byteLen < resume := by
        have positive := c.utf8Size_pos
        simp only [Text.byteLen_append, Text.byteLen_cons] at inside
        omega
      rw [List.append_cons] at inside ⊢
      rw [List.cons_append, tokensBetween_of_lt start, ih inside]

/-- Behind a match the search goes on with what the match leaves. -/
theorem tokensBetween_append_of_prefers (outside : resume ≤ before.byteLen) (nonempty : taken ≠ [])
    (prefers : pattern.Prefers before taken behind token) :
    pattern.tokensBetween resume before (taken ++ behind) =
      reported before taken token ::
        pattern.tokensBetween (before ++ taken).byteLen (before ++ taken) behind := by
  cases taken with
  | nil => exact absurd rfl nonempty
  | cons c others =>
      have cut : c :: (others ++ behind) = c :: others ++ behind := rfl
      rw [← cut, tokensBetween_of_prefers outside cut prefers]
      rw [List.append_cons before c others, tokensBetween_append_of_le (Nat.le_refl _)]

/-- Every token that is found is reported for a preferred match. -/
theorem exists_prefers_of_mem_tokensBetween
    (found : range ∈ pattern.tokensBetween resume before behind) :
    ∃ passed taken later token, resume ≤ (before ++ passed).byteLen ∧
      behind = passed ++ taken ++ later ∧ pattern.Prefers (before ++ passed) taken later token ∧
      range = reported (before ++ passed) taken token := by
  induction behind generalizing before resume with
  | nil => exact absurd found List.not_mem_nil
  | cons c rest ih =>
      rcases tokensBetween_cases pattern resume before c rest with
        passes | ⟨taken, later, token, outside, cut, prefers, reports⟩
      · rw [passes] at found
        rcases ih found with ⟨passed, taken, later, token, outside, rfl, prefers, isReported⟩
        exact ⟨c :: passed, taken, later, token, by simpa using outside, by simp,
          by simpa using prefers, by simpa using isReported⟩
      · rw [reports] at found
        rcases List.mem_cons.mp found with rfl | isLater
        · exact ⟨[], taken, later, token, by simpa using outside, by simpa using cut,
            by simpa using prefers, by simp⟩
        · rcases ih isLater with
            ⟨passed, taken', later', token', behindMatch, rfl, prefers', same⟩
          refine ⟨c :: passed, taken', later', token', ?_, by simp, by simpa using prefers',
            by simpa using same⟩
          simp only [Text.byteLen_append, Text.byteLen_cons, Text.byteLen_nil] at *
          omega

/-! ## The first match -/

/-- Whether a pattern matches at no place of the text `passed`, which stands between two others. -/
def PassesOver (pattern : Pattern) (before passed rest : Text) : Prop :=
  ∀ front back, passed = front ++ back → back ≠ [] →
    ∀ taken behind token, back ++ rest = taken ++ behind →
      ¬pattern.Takes (before ++ front) taken behind token

theorem passesOver_nil : pattern.PassesOver before [] rest := by
  intro front back nothing nonempty
  exact absurd (List.append_eq_nil_iff.mp nothing.symm).2 nonempty

theorem PassesOver.cons {passed : Text}
    (notFound : pattern.hit? (Place.between before (c :: (passed ++ rest))) = none)
    (passes : pattern.PassesOver (before ++ [c]) passed rest) :
    pattern.PassesOver before (c :: passed) rest := by
  intro front back parts nonempty taken behind token cut
  rcases List.cons_eq_append_iff.mp parts with ⟨rfl, rfl⟩ | ⟨others, rfl, rfl⟩
  · rw [List.append_nil]
    exact not_takes_of_not_found notFound cut
  · rw [List.append_cons]
    exact passes others back rfl nonempty taken behind token cut

theorem PassesOver.not_found {front back : Text}
    (passes : pattern.PassesOver before (front ++ back) rest) (nonempty : back ≠ []) :
    pattern.hit? (Place.between (before ++ front) (back ++ rest)) = none := by
  cases found : pattern.hit? (Place.between (before ++ front) (back ++ rest)) with
  | none => rfl
  | some hit =>
      rcases exists_prefers_of_hit? found with ⟨taken, behind, cut, prefers⟩
      exact absurd prefers.takes (passes front back rfl nonempty taken behind hit.token cut)

/-- What the pattern passes over has no tokens. -/
theorem tokensBetween_append_of_passesOver {passed : Text}
    (passes : pattern.PassesOver before passed rest) :
    pattern.tokensBetween resume before (passed ++ rest) =
      pattern.tokensBetween resume (before ++ passed) rest := by
  induction passed generalizing before with
  | nil => rw [List.nil_append, List.append_nil]
  | cons c others ih =>
      have here : pattern.PassesOver before ([] ++ c :: others) rest := passes
      have notFound : pattern.hit? (Place.between before (c :: (others ++ rest))) = none := by
        simpa using here.not_found (List.cons_ne_nil c others)
      have later : pattern.PassesOver (before ++ [c]) others rest := by
        intro front back parts nonempty
        rw [List.append_assoc]
        exact passes (c :: front) back (by rw [parts, List.cons_append]) nonempty
      rw [List.cons_append, tokensBetween_of_not_found notFound, ih later, ← List.append_cons]

/-- The first token is reported for the first place at which the pattern matches. -/
theorem tokensBetween_first (pattern : Pattern) (behind : Text)
    (outside : resume ≤ before.byteLen) :
    (pattern.tokensBetween resume before behind = [] ∧ pattern.PassesOver before behind []) ∨
      ∃ passed taken later token, behind = passed ++ (taken ++ later) ∧
        pattern.PassesOver before passed (taken ++ later) ∧
        pattern.Prefers (before ++ passed) taken later token ∧
        (pattern.tokensBetween resume before behind).head? =
          some (reported (before ++ passed) taken token) := by
  induction behind generalizing before with
  | nil => exact .inl ⟨tokensBetween_nil, passesOver_nil⟩
  | cons c rest ih =>
      cases found : pattern.hit? (Place.between before (c :: rest)) with
      | none =>
          have further : resume ≤ (before ++ [c]).byteLen := by
            rw [Text.byteLen_append]
            exact Nat.le_add_right_of_le outside
          rw [tokensBetween_of_not_found found]
          rcases ih further with
            ⟨nothing, passes⟩ | ⟨passed, taken, later, token, rfl, passes, first⟩
          · rw [← List.append_nil rest] at found
            exact .inl ⟨nothing, passes.cons found⟩
          · rw [← List.append_cons] at first
            exact .inr ⟨c :: passed, taken, later, token, rfl, passes.cons found, first⟩
      | some hit =>
          rcases exists_prefers_of_hit? found with ⟨taken, later, cut, prefers⟩
          refine .inr ⟨[], taken, later, hit.token, cut, passesOver_nil, by simpa using prefers, ?_⟩
          rw [tokensBetween_of_prefers outside cut prefers, List.head?_cons, List.append_nil]

theorem start_le_of_mem_tokensBetween (found : range ∈ pattern.tokensBetween resume before behind) :
    resume ≤ range.start ∧ before.byteLen ≤ range.start := by
  rcases exists_prefers_of_mem_tokensBetween found with
    ⟨passed, taken, later, token, behindResume, _, prefers, rfl⟩
  have within := prefers.takes.reported_within.1
  simp only [Text.byteLen_append] at *
  omega

theorem tokensBetween_pairwise (pattern : Pattern) (resume : Nat) (before behind : Text) :
    (pattern.tokensBetween resume before behind).Pairwise fun left right =>
      left.stop ≤ right.start := by
  induction behind generalizing before resume with
  | nil => exact .nil
  | cons c rest ih =>
      rcases tokensBetween_cases pattern resume before c rest with
        passes | ⟨taken, later, token, _, _, prefers, reports⟩
      · rw [passes]
        exact ih resume (before ++ [c])
      · rw [reports]
        refine .cons ?_ (ih _ _)
        intro range isLater
        exact Nat.le_trans prefers.takes.reported_within.2 (start_le_of_mem_tokensBetween isLater).1

/-! ## The tokens of a text -/

variable {text : Text}

theorem findAll_eq (pattern : Pattern) (text : Text) :
    pattern.findAll text =
      (pattern.tokensBetween 0 [] text).filter fun range => range.start < range.stop := rfl

theorem exists_prefers_of_mem_findAll (found : range ∈ pattern.findAll text) :
    ∃ before taken behind token, text = before ++ taken ++ behind ∧
      pattern.Prefers before taken behind token ∧ range = reported before taken token := by
  rw [findAll_eq] at found
  rcases exists_prefers_of_mem_tokensBetween (List.mem_filter.mp found).1 with
    ⟨before, taken, behind, token, _, cut, prefers, same⟩
  exact ⟨before, taken, behind, token, cut, prefers, same⟩

theorem start_lt_stop_of_mem_findAll (found : range ∈ pattern.findAll text) :
    range.start < range.stop :=
  of_decide_eq_true (List.mem_filter.mp found).2

/-- The tokens of a text lie one behind the other. -/
theorem findAll_pairwise (pattern : Pattern) (text : Text) :
    (pattern.findAll text).Pairwise fun left right => left.stop ≤ right.start :=
  (tokensBetween_pairwise pattern 0 [] text).filter _

theorem findAll_increasing (pattern : Pattern) (text : Text) :
    (pattern.findAll text).Pairwise fun left right => left.start < right.start := by
  apply (findAll_pairwise pattern text).imp_of_mem
  intro left right isLeft _ ordered
  exact Nat.lt_of_lt_of_le (start_lt_stop_of_mem_findAll isLeft) ordered

/-! ## How far matches reach -/

/-- Whether the preferred matches of a pattern go on as long as the characters pass the test. -/
def GoesOnWhile (pattern : Pattern) (test : Char → Bool) : Prop :=
  ∀ place hit, pattern.hit? place = some hit → ∀ c ∈ hit.place.rest.head?, test c = false

variable {test : Char → Bool} {first second body : Pattern}

theorem goesOnWhile_many (test : Char → Bool) : (many test).GoesOnWhile test := by
  have farthest (nearer : List Place) (previous : Option Char) (offset : Nat) (text : Text) :
      ∃ place others, Place.runs test nearer previous offset text = place :: others ∧
        ∀ c ∈ place.rest.head?, test c = false := by
    induction text generalizing nearer previous offset with
    | nil => exact ⟨_, nearer, rfl, by simp⟩
    | cons c rest ih =>
        rw [Place.runs]
        split
        next => exact ih _ _ _
        next stops => exact ⟨_, nearer, rfl, by simpa using stops⟩
  intro place hit found
  rcases farthest [] place.previous place.offset place.rest with ⟨reached, others, runs, stops⟩
  rw [hit?, hits, runs] at found
  rw [← Option.some.inj found]
  exact stops

theorem GoesOnWhile.append (goesOn : second.GoesOnWhile test) :
    (first ++ second).GoesOnWhile test := by
  intro place hit found
  have inSeq : (seq first second).hit? place = some hit := found
  rw [hit?, hits, List.head?_flatMap] at inSeq
  rcases List.exists_of_findSome?_eq_some inSeq with ⟨firstHit, _, isHead⟩
  rw [List.head?_map, Option.map_eq_some_iff] at isHead
  rcases isHead with ⟨secondHit, isSecond, rfl⟩
  exact goesOn firstHit.place secondHit isSecond

theorem GoesOnWhile.orElse (firstGoesOn : first.GoesOnWhile test)
    (secondGoesOn : second.GoesOnWhile test) : (first <|> second).GoesOnWhile test := by
  intro place hit found
  rw [hit?_orElse, Option.or_eq_some_iff] at found
  rcases found with isFirst | ⟨_, isSecond⟩
  · exact firstGoesOn place hit isFirst
  · exact secondGoesOn place hit isSecond

theorem GoesOnWhile.marked (goesOn : body.GoesOnWhile test) :
    (Pattern.token body).GoesOnWhile test := by
  intro place hit found
  rw [hit?, hits, List.head?_map, Option.map_eq_some_iff] at found
  rcases found with ⟨bodyHit, isBody, rfl⟩
  exact goesOn place bodyHit isBody

end Pattern

end BatchLens
