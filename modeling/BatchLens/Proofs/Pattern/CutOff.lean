import Mathlib.Data.List.Basic
import BatchLens.Proofs.Pattern.Search

/-!
# Searching a text that is cut off

When the end of a text is cut off at a character that belongs to no word, a pattern keeps exactly
those matches that end in front of the cut, in the same order (`hits_cutOff`). A search then finds
the same tokens as before up to the first match that ran over the cut, and may find others from
there on (`keepsTokens`).
-/

namespace BatchLens

/-- A place that has at least so many characters behind it, when these are cut off at the end of
the text. -/
def Place.cutOff (length : Nat) (place : Place) : Option Place :=
  if length ≤ place.rest.length then
    some { place with rest := place.rest.take (place.rest.length - length) }
  else none

/-- A match that ends in front of the last characters of a text, when these are cut off. -/
def Hit.cutOff (length : Nat) (hit : Hit) : Option Hit :=
  (hit.place.cutOff length).map fun place => ⟨place, hit.token⟩

namespace Place

variable {test : Char → Bool} {nearer nearer' : List Place} {previous : Option Char}
  {offset length : Nat} {behind tail : Text}

theorem cutOff_append (previous : Option Char) (offset : Nat) (behind tail : Text) :
    cutOff tail.length ⟨previous, offset, behind ++ tail⟩ = some ⟨previous, offset, behind⟩ := by
  simp [cutOff]

theorem cutOff_eq_none {place : Place} (beyond : place.rest.length < length) :
    place.cutOff length = none := by
  rw [cutOff, if_neg (Nat.not_le.mpr beyond)]

/-- The places reached from here end with this one and the nearer ones. -/
theorem exists_farther (test : Char → Bool) (nearer : List Place) (previous : Option Char)
    (offset : Nat) (behind : Text) :
    ∃ farther, runs test nearer previous offset behind =
        farther ++ ⟨previous, offset, behind⟩ :: nearer ∧
      ∀ place ∈ farther, place.rest.length < behind.length := by
  induction behind generalizing nearer previous offset with
  | nil => exact ⟨[], rfl, by simp⟩
  | cons c rest ih =>
      rw [runs]
      split
      next =>
        rcases ih (⟨previous, offset, c :: rest⟩ :: nearer) (some c) (offset + c.utf8Size) with
          ⟨farther, reached, shorter⟩
        refine ⟨farther ++ [⟨some c, offset + c.utf8Size, rest⟩], by simp [reached], ?_⟩
        intro place isFarther
        rw [List.length_cons]
        rcases List.mem_append.mp isFarther with isFarther | isNext
        · have := shorter place isFarther
          omega
        · rw [List.mem_singleton.mp isNext]
          exact Nat.lt_succ_self _
      next => exact ⟨[], rfl, by simp⟩

theorem runs_cutOff (sameNearer : nearer' = nearer.filterMap (cutOff tail.length)) :
    runs test nearer' previous offset behind =
      (runs test nearer previous offset (behind ++ tail)).filterMap (cutOff tail.length) := by
  induction behind generalizing nearer nearer' previous offset with
  | nil =>
      rcases exists_farther test nearer previous offset tail with ⟨farther, reached, shorter⟩
      have noFarther : farther.filterMap (cutOff tail.length) = [] := by
        rw [List.filterMap_eq_nil_iff]
        intro place isFarther
        exact cutOff_eq_none (shorter place isFarther)
      have here := cutOff_append previous offset [] tail
      rw [List.nil_append] at here ⊢
      rw [reached, List.filterMap_append, noFarther, List.nil_append,
        List.filterMap_cons_some here, ← sameNearer, runs]
  | cons c rest ih =>
      have here := cutOff_append previous offset (c :: rest) tail
      rw [List.cons_append] at here ⊢
      rw [runs, runs]
      split
      next =>
        apply ih
        rw [List.filterMap_cons_some here, sameNearer]
      next => rw [List.filterMap_cons_some here, sameNearer]

/-- Cutting off at a character that belongs to no word moves no word boundary. -/
theorem atWordBoundary_append {before : Text}
    (noWord : tail.head?.any Unicode.isWordChar = false) :
    (between before (behind ++ tail)).atWordBoundary =
      (between before behind).atWordBoundary := by
  cases behind with
  | nil => simp [atWordBoundary, between, noWord]
  | cons c rest => rfl

end Place

namespace Hit

theorem cutOff_append (before behind tail : Text) (token : Option ByteRange) :
    cutOff tail.length ⟨Place.between before (behind ++ tail), token⟩ =
      some ⟨Place.between before behind, token⟩ := by
  rw [cutOff, Place.between, Place.cutOff_append]
  rfl

theorem filterMap_cutOff_singleton (before behind tail : Text) (token : Option ByteRange) :
    [Hit.mk (Place.between before (behind ++ tail)) token].filterMap (cutOff tail.length) =
      [⟨Place.between before behind, token⟩] := by
  rw [List.filterMap_cons_some (cutOff_append ..), List.filterMap_nil]

theorem cutOff_eq_none {length : Nat} {hit : Hit} (beyond : hit.place.rest.length < length) :
    hit.cutOff length = none := by
  rw [cutOff, Place.cutOff_eq_none beyond, Option.map_none]

end Hit

namespace Pattern

/-- A match that begins behind a cut ends behind it. -/
theorem filterMap_cutOff_of_beyond (pattern : Pattern) (before : Text) {behind : Text}
    {length : Nat} (beyond : behind.length < length) :
    (pattern.hits (Place.between before behind)).filterMap (Hit.cutOff length) = [] := by
  rw [List.filterMap_eq_nil_iff]
  intro hit isHit
  rcases exists_takes_of_mem_hits isHit with ⟨taken, rest, rfl, place, _⟩
  apply Hit.cutOff_eq_none
  rw [place]
  rw [List.length_append] at beyond
  exact Nat.lt_of_le_of_lt (Nat.le_add_left ..) beyond

/-- Marking other tokens commutes with cutting off, as the offsets of places stay what they are. -/
theorem filterMap_cutOff_map (length : Nat) (mark : Nat → Option ByteRange → Option ByteRange)
    (hits : List Hit) :
    (hits.map fun hit => Hit.mk hit.place (mark hit.place.offset hit.token)).filterMap
        (Hit.cutOff length) =
      (hits.filterMap (Hit.cutOff length)).map fun hit =>
        ⟨hit.place, mark hit.place.offset hit.token⟩ := by
  rw [List.filterMap_map, List.map_filterMap]
  apply List.filterMap_congr
  intro hit _
  simp only [Function.comp_apply, Hit.cutOff, Place.cutOff]
  split <;> rfl

/-- A pattern keeps those of its matches that end in front of the cut, in the same order. -/
theorem hits_cutOff (pattern : Pattern) {tail : Text}
    (noWord : tail.head?.any Unicode.isWordChar = false) (before behind : Text) :
    pattern.hits (Place.between before behind) =
      (pattern.hits (Place.between before (behind ++ tail))).filterMap
        (Hit.cutOff tail.length) := by
  induction pattern generalizing before behind with
  | empty => exact (Hit.filterMap_cutOff_singleton ..).symm
  | textStart =>
      have sameOffset : (Place.between before (behind ++ tail)).offset =
          (Place.between before behind).offset := rfl
      simp only [hits, sameOffset]
      split
      next => rw [Hit.filterMap_cutOff_singleton]
      next => rfl
  | wordBoundary =>
      simp only [hits, Place.atWordBoundary_append noWord]
      split
      next => rw [Hit.filterMap_cutOff_singleton]
      next => rfl
  | one test =>
      cases behind with
      | nil =>
          rw [hits_one_nil, List.nil_append]
          cases tail with
          | nil => rfl
          | cons c rest =>
              rw [hits_one_cons]
              split
              next =>
                have beyond : rest.length < (c :: rest).length := Nat.lt_succ_self _
                exact (filterMap_cutOff_of_beyond empty (before ++ [c]) beyond).symm
              next => rfl
      | cons c rest =>
          rw [List.cons_append, hits_one_cons, hits_one_cons]
          split
          next => rw [Hit.filterMap_cutOff_singleton]
          next => rfl
  | many test =>
      have cutRuns : Place.runs test [] before.getLast? before.byteLen behind =
          (Place.runs test [] before.getLast? before.byteLen (behind ++ tail)).filterMap
            (Place.cutOff tail.length) :=
        Place.runs_cutOff rfl
      simp only [hits, Place.between]
      rw [cutRuns, List.map_filterMap, List.filterMap_map]
      rfl
  | seq first second ihFirst ihSecond =>
      rw [hits, hits, ihFirst, List.filterMap_flatMap, List.filterMap_eq_flatMap_toList,
        List.flatMap_assoc]
      apply List.flatMap_congr
      intro hit isHit
      rcases exists_takes_of_mem_hits isHit with ⟨taken, rest, cut, place, _⟩
      rw [filterMap_cutOff_map _ fun _ token => hit.token.or token]
      rcases Nat.lt_or_ge rest.length tail.length with beyond | within
      · have noSecond := filterMap_cutOff_of_beyond second (before ++ taken) beyond
        rw [← place] at noSecond
        rw [noSecond, Hit.cutOff_eq_none (by rw [place]; exact beyond)]
        rfl
      · obtain ⟨kept, rfl⟩ : ∃ kept, rest = kept ++ tail := by
          have suffixes := List.suffix_of_suffix_length_le (List.suffix_append behind tail)
            ⟨taken, cut.symm⟩ within
          rcases suffixes with ⟨kept, same⟩
          exact ⟨kept, same.symm⟩
        have cutPlace := Hit.cutOff_append (before ++ taken) kept tail hit.token
        rw [← place] at cutPlace
        rw [cutPlace, place, ← ihSecond]
        simp
  | either first second ihFirst ihSecond =>
      rw [hits, hits, List.filterMap_append, ← ihFirst, ← ihSecond]
  | token body ih =>
      rw [hits, hits, ih]
      exact (filterMap_cutOff_map _ (fun stop _ => some ⟨before.byteLen, stop⟩) _).symm

variable {pattern : Pattern} {before taken behind tail : Text} {token : Option ByteRange}

theorem hit?_cutOff (noWord : tail.head?.any Unicode.isWordChar = false)
    (notFound : pattern.hit? (Place.between before (behind ++ tail)) = none) :
    pattern.hit? (Place.between before behind) = none := by
  rw [hit?, List.head?_eq_none_iff] at notFound ⊢
  rw [hits_cutOff pattern noWord, notFound, List.filterMap_nil]

/-- A preferred match that ends in front of the cut stays the preferred one. -/
theorem Prefers.cutOff (noWord : tail.head?.any Unicode.isWordChar = false)
    (prefers : pattern.Prefers before taken (behind ++ tail) token) :
    pattern.Prefers before taken behind token := by
  rw [Prefers, ← List.append_assoc] at prefers
  rcases List.head?_eq_some_iff.mp prefers with ⟨others, areHits⟩
  rw [Prefers, hit?, hits_cutOff pattern noWord, areHits,
    List.filterMap_cons_some (Hit.cutOff_append ..), List.head?_cons]

/-! ## Tokens -/

/-- Whether what a pattern reports is never empty and reaches to the end of the match. -/
def ReportsToEnd (pattern : Pattern) : Prop :=
  ∀ {before taken behind token}, pattern.Takes before taken behind token →
    (reported before taken token).start < (reported before taken token).stop ∧
      (reported before taken token).stop = (before ++ taken).byteLen

/-- A match that takes `kept` at the end of a text and runs over it, although the pattern also
matches inside `kept`. -/
structure Overruns (pattern : Pattern) (before kept excess behind : Text)
    (token : Option ByteRange) : Prop where
  takes : pattern.Takes before (kept ++ excess) behind token
  excess_ne_nil : excess ≠ []
  inside : ∃ passed taken later inner, kept = passed ++ taken ++ later ∧
    pattern.Takes (before ++ passed) taken later inner

theorem ReportsToEnd.start_lt_stop (ends : pattern.ReportsToEnd) {resume : Nat}
    {range : ByteRange}
    (found : range ∈ pattern.tokensBetween resume before behind) : range.start < range.stop := by
  rcases exists_prefers_of_mem_tokensBetween found with ⟨_, _, _, _, _, _, prefers, rfl⟩
  exact (ends prefers.takes).1

theorem ReportsToEnd.findAll_eq (ends : pattern.ReportsToEnd) (text : Text) :
    pattern.findAll text = pattern.tokensBetween 0 [] text := by
  rw [Pattern.findAll_eq, List.filter_eq_self]
  intro range found
  exact decide_eq_true (ends.start_lt_stop found)

/-- Tokens behind an offset do not end in front of it. -/
theorem ReportsToEnd.filter_eq_nil (ends : pattern.ReportsToEnd) {resume stop : Nat}
    (beyond : stop ≤ resume ∨ stop ≤ before.byteLen) :
    (pattern.tokensBetween resume before behind).filter (fun range => range.stop ≤ stop) = [] := by
  rw [List.filter_eq_nil_iff]
  intro range found
  have nonempty := ends.start_lt_stop found
  have later := start_le_of_mem_tokensBetween found
  simp only [decide_eq_true_eq]
  omega

/-- What is taken of two texts in a row either leaves some of the first, or takes some of the
second. -/
theorem within_or_over {first second taken later : Text}
    (parts : first ++ second = taken ++ later) :
    (∃ kept, first = taken ++ kept ∧ later = kept ++ second) ∨
      ∃ excess, excess ≠ [] ∧ taken = first ++ excess ∧ second = excess ++ later := by
  rcases List.append_eq_append_iff.mp parts with ⟨excess, rfl, rfl⟩ | ⟨kept, rfl, rfl⟩
  · by_cases nothing : excess = []
    · subst nothing
      exact .inl ⟨[], by simp, by simp⟩
    · exact .inr ⟨excess, nothing, rfl, rfl⟩
  · exact .inl ⟨kept, rfl, rfl⟩

/-- What a search finds between two texts when the tail of the second one is cut off: first the
tokens that end in front of the cut, and then others only if a match ran over the cut. -/
def KeepsTokens (pattern : Pattern) (resume : Nat) (before behind tail : Text) : Prop :=
  ∃ new, pattern.tokensBetween resume before behind =
      (pattern.tokensBetween resume before (behind ++ tail)).filter
        (fun range => range.stop ≤ (before ++ behind).byteLen) ++ new ∧
    (new ≠ [] → ∃ passed kept excess rest token, behind = passed ++ kept ∧ tail = excess ++ rest ∧
      pattern.Overruns (before ++ passed) kept excess rest token ∧
      reported (before ++ passed) (kept ++ excess) token ∈
        pattern.tokensBetween resume before (behind ++ tail))

/-- A token in front of the cut is kept, and so are the tokens behind it. -/
theorem KeepsTokens.of_front {resume resume' : Nat} {rest : Text} {c : Char}
    (later : pattern.KeepsTokens resume' (before ++ [c]) rest tail) (front : List ByteRange)
    (inFront : ∀ range ∈ front, range.stop ≤ (before ++ c :: rest).byteLen)
    (inPart : pattern.tokensBetween resume before (c :: rest) =
      front ++ pattern.tokensBetween resume' (before ++ [c]) rest)
    (inWhole : pattern.tokensBetween resume before (c :: rest ++ tail) =
      front ++ pattern.tokensBetween resume' (before ++ [c]) (rest ++ tail)) :
    pattern.KeepsTokens resume before (c :: rest) tail := by
  have sameStop : (before ++ [c] ++ rest).byteLen = (before ++ c :: rest).byteLen := by simp
  have frontStays : front.filter (fun range => range.stop ≤ (before ++ c :: rest).byteLen) =
      front := by
    rw [List.filter_eq_self]
    intro range isFront
    exact decide_eq_true (inFront range isFront)
  rcases later with ⟨new, found, onlyOver⟩
  rw [sameStop] at found
  refine ⟨new, ?_, ?_⟩
  · rw [inPart, inWhole, found, List.filter_append, frontStays, List.append_assoc]
  · intro isNew
    rcases onlyOver isNew with ⟨passed, kept, excess, behind, token, rfl, rfl, overruns, reports⟩
    have sameFront : before ++ [c] ++ passed = before ++ c :: passed := by simp
    rw [sameFront] at overruns reports
    refine ⟨c :: passed, kept, excess, behind, token, rfl, rfl, overruns, ?_⟩
    rw [inWhole]
    exact List.mem_append_right front reports

theorem keepsTokens (ends : pattern.ReportsToEnd)
    (noWord : tail.head?.any Unicode.isWordChar = false) (resume : Nat) (before behind : Text) :
    pattern.KeepsTokens resume before behind tail := by
  induction behind generalizing resume before with
  | nil =>
      refine ⟨[], ?_, by simp⟩
      rw [ends.filter_eq_nil (.inr (by simp)), tokensBetween_nil, List.append_nil]
  | cons c rest ih =>
      rcases Nat.lt_or_ge before.byteLen resume with inside | outside
      · exact (ih resume (before ++ [c])).of_front [] (by simp) (tokensBetween_of_lt inside)
          (tokensBetween_of_lt inside)
      · cases found : pattern.hit? (Place.between before (c :: rest ++ tail)) with
        | none =>
            exact (ih resume (before ++ [c])).of_front [] (by simp)
              (tokensBetween_of_not_found (hit?_cutOff noWord found))
              (tokensBetween_of_not_found found)
        | some hit =>
            rcases exists_prefers_of_hit? found with ⟨taken, later, parts, prefers⟩
            have reportsInWhole : pattern.tokensBetween resume before (c :: rest ++ tail) =
                reported before taken hit.token ::
                  pattern.tokensBetween (before ++ taken).byteLen (before ++ [c])
                    (rest ++ tail) :=
              tokensBetween_of_prefers outside parts prefers
            rcases within_or_over parts with ⟨kept, restEq, rfl⟩ | ⟨excess, isOver, rfl, rfl⟩
            · refine (ih _ (before ++ [c])).of_front [reported before taken hit.token] ?_
                (tokensBetween_of_prefers outside restEq (prefers.cutOff noWord)) reportsInWhole
              intro range isReported
              rw [List.mem_singleton.mp isReported, restEq]
              have ends := (ends prefers.takes).2
              simp only [Text.byteLen_append] at ends ⊢
              omega
            · refine ⟨pattern.tokensBetween resume before (c :: rest), ?_, ?_⟩
              · have reportsBeyond : (before ++ (c :: rest)).byteLen <
                    (reported before (c :: rest ++ excess) hit.token).stop := by
                  have positive := Text.byteLen_pos isOver
                  rw [(ends prefers.takes).2, ← List.append_assoc, Text.byteLen_append _ excess]
                  omega
                rw [reportsInWhole, List.filter_cons_of_neg (by simpa using reportsBeyond),
                  ends.filter_eq_nil, List.nil_append]
                left
                simp
              · intro isNew
                rcases List.exists_mem_of_ne_nil _ isNew with ⟨range, found⟩
                rcases exists_prefers_of_mem_tokensBetween found with
                  ⟨passed, taken, later', inner, _, restEq, prefersInside, _⟩
                refine ⟨[], c :: rest, excess, later, hit.token, rfl, rfl, ⟨?_, isOver, ?_⟩, ?_⟩
                · simpa using prefers.takes
                · exact ⟨passed, taken, later', inner, restEq,
                    by simpa using prefersInside.takes⟩
                · rw [reportsInWhole, List.append_nil]
                  exact List.mem_cons_self

/-- What is found of a text that was cut off. -/
theorem findAll_cutOff (ends : pattern.ReportsToEnd)
    (noWord : tail.head?.any Unicode.isWordChar = false) (text : Text) :
    ∃ new, pattern.findAll text =
        (pattern.findAll (text ++ tail)).filter (fun range => range.stop ≤ text.byteLen) ++ new ∧
      (new ≠ [] → ∃ passed kept excess rest token, text = passed ++ kept ∧ tail = excess ++ rest ∧
        pattern.Overruns passed kept excess rest token ∧
        reported passed (kept ++ excess) token ∈ pattern.findAll (text ++ tail)) := by
  rw [ends.findAll_eq, ends.findAll_eq]
  exact keepsTokens ends noWord 0 [] text

end Pattern

end BatchLens
