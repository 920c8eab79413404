import Mathlib.Data.List.Pairwise
import BatchLens.Proofs.Pattern.Composition

/-!
# Alternatives

A pattern is often a choice between alternatives, each of which marks at most one part of what it
takes; the rest is context. A search for such a choice is told here step by step (`Run`): it passes
over the places at which no alternative matches, lets the first alternative that matches take what
it prefers, and goes on behind all of that. If every alternative takes something then each search
comes to an end in this way, and what it finds are the tokens of its matches (`exists_run`).
-/

namespace BatchLens

namespace Pattern

/-- One of the ways in which a pattern can match: either all that is taken is the token, or a part
of it is marked as such. -/
inductive Alternative where
  | whole (body : Pattern)
  | marked (lead body trail : Pattern)

namespace Alternative

/-- The alternative as a pattern, with its marked part as the token. -/
def pattern : Alternative → Pattern
  | whole body => body
  | marked lead body trail => lead ++ token body ++ trail

/-- The context in front of the token. -/
def lead : Alternative → Pattern
  | whole _ => empty
  | marked lead _ _ => lead

/-- The token. -/
def body : Alternative → Pattern
  | whole body | marked _ body _ => body

/-- The context behind the token. -/
def trail : Alternative → Pattern
  | whole _ => empty
  | marked _ _ trail => trail

/-- Whether nothing is marked apart from the token. -/
def isPlain : Alternative → Bool
  | whole body => body.marksNothing
  | marked lead _ trail => lead.marksNothing && trail.marksNothing

/-- The choice between alternatives, as a pattern. -/
def choice (alternatives : List Alternative) : Pattern := anyOf (alternatives.map pattern)

/-- The first of the alternatives that matches at a place. -/
def firstAt? (alternatives : List Alternative) (place : Place) : Option Alternative :=
  alternatives.find? fun alternative => (alternative.pattern.hit? place).isSome

end Alternative

/-- A match of an alternative: what stands before it, the context in front of its token, the token,
the context behind it, and what is left of the text. -/
structure Match where
  alternative : Alternative
  before : Text
  lead : Text
  body : Text
  trail : Text
  behind : Text

namespace Match

/-- All that a match takes. -/
def taken (found : Match) : Text := found.lead ++ found.body ++ found.trail

/-- The range of the token. -/
def range (found : Match) : ByteRange :=
  ⟨(found.before ++ found.lead).byteLen, (found.before ++ found.lead ++ found.body).byteLen⟩

/-- Whether a range covers nothing of the context of a match. -/
def LeavesOut (found : Match) (range : ByteRange) : Prop :=
  (range.stop ≤ found.before.byteLen ∨ (found.before ++ found.lead).byteLen ≤ range.start) ∧
    (range.stop ≤ (found.before ++ found.lead ++ found.body).byteLen ∨
      (found.before ++ found.taken).byteLen ≤ range.start)

/-- Whether a match is what its alternative prefers: each part of the alternative takes its part of
the match, and the token is what is reported. -/
structure IsMade (found : Match) : Prop where
  prefers : ∃ token, found.alternative.pattern.Prefers found.before found.taken found.behind token ∧
    reported found.before found.taken token = found.range
  takesLead : found.alternative.lead.Takes found.before found.lead
    (found.body ++ found.trail ++ found.behind) none
  takesBody : ∃ inner, found.alternative.body.Takes (found.before ++ found.lead) found.body
    (found.trail ++ found.behind) inner
  takesTrail : found.alternative.trail.Takes (found.before ++ found.lead ++ found.body) found.trail
    found.behind none

end Match

/-- A search for alternatives from a place between two texts on, with the matches that it makes. -/
inductive Run (alternatives : List Alternative) : Text → Text → List Match → Prop
  /-- No alternative matches any more, not even behind the last character. -/
  | done {before behind : Text}
      (never : ∀ front back, behind = front ++ back →
        Alternative.firstAt? alternatives (Place.between (before ++ front) back) = none) :
      Run alternatives before behind []
  /-- The first alternative at the first place that has one makes a match, and the search goes on
  behind all that it takes. -/
  | step {before passed : Text} {found : Match} {others : List Match}
      (place : found.before = before ++ passed)
      (passes : ∀ front back, passed = front ++ back → back ≠ [] →
        Alternative.firstAt? alternatives
          (Place.between (before ++ front) (back ++ (found.taken ++ found.behind))) = none)
      (isFirst : Alternative.firstAt? alternatives
        (Place.between found.before (found.taken ++ found.behind)) = some found.alternative)
      (made : found.IsMade)
      (further : Run alternatives (found.before ++ found.taken) found.behind others) :
      Run alternatives before (passed ++ (found.taken ++ found.behind)) (found :: others)

/-- The context of a match is not in its token. -/
theorem Match.leavesOut_range (found : Match) : found.LeavesOut found.range :=
  ⟨.inr (Nat.le_refl _), .inl (Nat.le_refl _)⟩

variable {alternatives : List Alternative} {before taken behind : Text}
  {token : Option ByteRange} {place : Place} {found : Match} {made : List Match}

/-! ## One step -/

namespace Alternative

/-- A choice matches like the first of the alternatives that match. -/
theorem hit?_choice (alternatives : List Alternative) (place : Place) :
    (choice alternatives).hit? place =
      (firstAt? alternatives place).bind fun alternative => alternative.pattern.hit? place := by
  rw [choice, hit?_anyOf, List.findSome?_map, firstAt?]
  induction alternatives with
  | nil => rfl
  | cons alternative others ih =>
      cases found : alternative.pattern.hit? place with
      | none => simp [found, ih]
      | some hit => simp [found]

theorem firstAt?_eq_none_iff :
    firstAt? alternatives place = none ↔ (choice alternatives).hit? place = none := by
  rw [hit?_choice, Option.bind_eq_none_iff]
  constructor
  · intro isNone
    simp [isNone]
  · intro never
    cases isFirst : firstAt? alternatives place with
    | none => rfl
    | some alternative =>
        have isSome := List.find?_some isFirst
        rw [never alternative isFirst] at isSome
        exact absurd isSome Bool.false_ne_true

/-- A choice passes over a text if no alternative matches at any place of it. -/
theorem passesOver_iff {passed : Text} :
    (choice alternatives).PassesOver before passed behind ↔
      ∀ front back, passed = front ++ back → back ≠ [] →
        firstAt? alternatives (Place.between (before ++ front) (back ++ behind)) = none := by
  constructor
  · rintro passes front back rfl nonempty
    exact firstAt?_eq_none_iff.mpr (passes.not_found nonempty)
  · intro never front back parts nonempty taken later token cut
    exact not_takes_of_not_found (firstAt?_eq_none_iff.mp (never front back parts nonempty)) cut

/-- What an alternative prefers to take is a match of its parts. -/
theorem exists_isMade {alternative : Alternative} (plain : alternative.isPlain = true)
    (prefers : alternative.pattern.Prefers before taken behind token) :
    ∃ found : Match, found.alternative = alternative ∧ found.before = before ∧
      found.taken = taken ∧ found.behind = behind ∧ found.IsMade := by
  cases alternative with
  | whole body =>
      have prefersBody : body.Prefers before taken behind token := prefers
      obtain rfl := token_eq_none_of_takes plain prefersBody.takes
      have takesBody : body.Takes (before ++ []) taken ([] ++ behind) none := by
        simpa using prefersBody.takes
      have parts : [] ++ taken ++ [] = taken := by simp
      refine ⟨⟨.whole body, before, [], taken, [], behind⟩, rfl, rfl, parts, rfl,
        ⟨⟨none, ?_, ?_⟩, takes_empty.mpr ⟨rfl, rfl⟩, ⟨none, takesBody⟩,
          takes_empty.mpr ⟨rfl, rfl⟩⟩⟩
      · rwa [Match.taken, parts]
      · simp [reported, Match.taken, Match.range]
  | marked lead body trail =>
      rw [isPlain, Bool.and_eq_true] at plain
      rcases takes_append.mp prefers.takes with
        ⟨_, trailText, _, _, rfl, takesFront, takesTrail, rfl⟩
      rcases takes_append.mp takesFront with
        ⟨leadText, bodyText, _, _, rfl, takesLead, takesToken, rfl⟩
      obtain ⟨takesBody, rfl⟩ := takes_token.mp takesToken
      obtain rfl := token_eq_none_of_takes plain.1 takesLead
      obtain rfl := token_eq_none_of_takes plain.2 takesTrail
      rw [← List.append_assoc] at takesLead takesTrail
      exact ⟨⟨.marked lead body trail, before, leadText, bodyText, trailText, behind⟩, rfl, rfl,
        rfl, rfl, ⟨⟨_, prefers, rfl⟩, takesLead, takesBody, takesTrail⟩⟩

/-- What a choice prefers to take is a match of the first alternative that matches. -/
theorem exists_isMade_of_choice
    (arePlain : ∀ alternative ∈ alternatives, alternative.isPlain = true)
    (prefers : (choice alternatives).Prefers before taken behind token) :
    ∃ found : Match, firstAt? alternatives (Place.between before (taken ++ behind)) =
        some found.alternative ∧ found.before = before ∧ found.taken = taken ∧
      found.behind = behind ∧ found.IsMade := by
  rw [Prefers, hit?_choice, Option.bind_eq_some_iff] at prefers
  rcases prefers with ⟨alternative, isFirst, isHit⟩
  have plain := arePlain alternative (List.mem_of_find?_eq_some isFirst)
  rcases exists_isMade plain isHit with ⟨found, rfl, isMatch⟩
  exact ⟨found, isFirst, isMatch⟩

end Alternative

/-! ## All steps -/

section

variable (arePlain : ∀ alternative ∈ alternatives, alternative.isPlain = true)
  (takeSome : ∀ alternative ∈ alternatives, ∀ before behind token,
    ¬alternative.body.Takes before [] behind token)
include arePlain takeSome

theorem taken_ne_nil_of_prefers
    (prefers : (Alternative.choice alternatives).Prefers before taken behind token) :
    taken ≠ [] := by
  rcases Alternative.exists_isMade_of_choice arePlain prefers with
    ⟨found, isFirst, _, rfl, _, isMade⟩
  intro nothing
  rcases isMade.takesBody with ⟨inner, takesBody⟩
  simp only [Match.taken, List.append_eq_nil_iff] at nothing
  rw [nothing.1.2] at takesBody
  exact takeSome found.alternative (List.mem_of_find?_eq_some isFirst) _ _ _ takesBody

theorem firstAt?_end (before : Text) :
    Alternative.firstAt? alternatives (Place.between before []) = none := by
  rw [Alternative.firstAt?_eq_none_iff]
  cases found : (Alternative.choice alternatives).hit? (Place.between before []) with
  | none => rfl
  | some hit =>
      rcases exists_prefers_of_hit? found with ⟨taken, later, cut, prefers⟩
      have nothing := (List.append_eq_nil_iff.mp cut.symm).1
      exact absurd nothing (taken_ne_nil_of_prefers arePlain takeSome prefers)

/-- If every alternative takes something then a search comes to an end. -/
theorem exists_run (before behind : Text) : ∃ made, Run alternatives before behind made := by
  induction length : behind.length using Nat.strongRecOn generalizing before behind with
  | _ length ih =>
      subst length
      have first := tokensBetween_first (Alternative.choice alternatives) behind
        (Nat.le_refl before.byteLen)
      rcases first with ⟨_, passes⟩ | ⟨passed, taken, later, token, rfl, passes, prefers, _⟩
      · refine ⟨[], .done ?_⟩
        rintro front back rfl
        by_cases atEnd : back = []
        · rw [atEnd]
          exact firstAt?_end arePlain takeSome _
        · have never := Alternative.passesOver_iff.mp passes front back rfl atEnd
          rwa [List.append_nil] at never
      · have nonempty := taken_ne_nil_of_prefers arePlain takeSome prefers
        have shorter : later.length < (passed ++ (taken ++ later)).length := by
          have positive := List.length_pos_iff.mpr nonempty
          simp only [List.length_append]
          omega
        rcases Alternative.exists_isMade_of_choice arePlain prefers with
          ⟨found, isFirst, place, rfl, rfl, isMade⟩
        rw [← place] at isFirst
        rcases ih _ shorter (found.before ++ found.taken) found.behind rfl with ⟨others, further⟩
        exact ⟨found :: others,
          .step place (Alternative.passesOver_iff.mp passes) isFirst isMade further⟩

end

namespace Run

/-- Every match of a search is made by the first alternative that matches at its place. -/
theorem isMade (run : Run alternatives before behind made) (isMatch : found ∈ made) :
    found.alternative ∈ alternatives ∧ found.IsMade := by
  induction run with
  | done _ => exact absurd isMatch List.not_mem_nil
  | step _ _ isFirst made _ ih =>
      rcases List.mem_cons.mp isMatch with rfl | isLater
      · exact ⟨List.mem_of_find?_eq_some isFirst, made⟩
      · exact ih isLater

/-- What a search reports are the tokens of the matches that it makes. -/
theorem tokens (run : Run alternatives before behind made)
    (takeSome : ∀ found ∈ made, found.taken ≠ []) {resume : Nat}
    (outside : resume ≤ before.byteLen) :
    (Alternative.choice alternatives).tokensBetween resume before behind =
      made.map Match.range := by
  induction run generalizing resume with
  | @done before behind never =>
      have passes : (Alternative.choice alternatives).PassesOver before behind [] := by
        apply Alternative.passesOver_iff.mpr
        rintro front back rfl _
        rw [List.append_nil]
        exact never front back rfl
      rw [← List.append_nil behind, tokensBetween_append_of_passesOver passes]
      rfl
  | @step before passed found others place passes isFirst isMade further ih =>
      rw [List.forall_mem_cons] at takeSome
      rcases isMade.prefers with ⟨token, prefers, isRange⟩
      have prefersChoice : (Alternative.choice alternatives).Prefers found.before found.taken
          found.behind token := by
        rw [Prefers, Alternative.hit?_choice, isFirst]
        exact prefers
      have beyond : resume ≤ found.before.byteLen := by
        rw [place, Text.byteLen_append]
        omega
      rw [tokensBetween_append_of_passesOver (Alternative.passesOver_iff.mpr passes), ← place,
        tokensBetween_append_of_prefers beyond takeSome.1 prefersChoice, isRange,
        ih takeSome.2 (Nat.le_refl _), List.map_cons]

/-- Each match of a search begins behind all that the matches before it take. -/
theorem ordered (run : Run alternatives before behind made) :
    (∀ found ∈ made, before.byteLen ≤ found.before.byteLen) ∧
      made.Pairwise fun earlier later =>
        (earlier.before ++ earlier.taken).byteLen ≤ later.before.byteLen := by
  induction run with
  | done _ => exact ⟨by simp, .nil⟩
  | step place _ _ _ _ ih =>
      rcases ih with ⟨behindFound, othersOrdered⟩
      refine ⟨List.forall_mem_cons.mpr ⟨?_, ?_⟩, .cons behindFound othersOrdered⟩
      · rw [place, Text.byteLen_append]
        exact Nat.le_add_right _ _
      · intro other isOther
        have beyond := behindFound other isOther
        rw [place, Text.byteLen_append, Text.byteLen_append] at beyond
        omega

/-- A search makes no more matches than the text has characters, if all of them take some. -/
theorem length_le (run : Run alternatives before behind made)
    (takeSome : ∀ found ∈ made, found.taken ≠ []) : made.length ≤ behind.length := by
  induction run with
  | done _ => exact Nat.zero_le _
  | step _ _ _ _ _ ih =>
      rw [List.forall_mem_cons] at takeSome
      have fewer := ih takeSome.2
      have positive := List.length_pos_iff.mpr takeSome.1
      simp only [List.length_cons, List.length_append]
      omega

/-- The context of a match is in no token of the search. -/
theorem leavesOut (run : Run alternatives before behind made) {other : Match}
    (isMatch : found ∈ made) (isOther : other ∈ made) : found.LeavesOut other.range := by
  let LeaveOut (first second : Match) : Prop :=
    first.LeavesOut second.range ∧ second.LeavesOut first.range
  have symmetric : Std.Symm LeaveOut := ⟨fun _ _ => And.symm⟩
  have ownToken : ∀ first ∈ made, LeaveOut first first := by
    intro first _
    exact ⟨first.leavesOut_range, first.leavesOut_range⟩
  have tokens : made.Pairwise LeaveOut := by
    apply run.ordered.2.imp
    intro first second behindFirst
    simp only [LeaveOut, Match.LeavesOut, Match.range, Match.taken, Text.byteLen_append] at *
    omega
  exact (tokens.forall_of_forall ownToken isMatch isOther).1

end Run

end Pattern

end BatchLens
