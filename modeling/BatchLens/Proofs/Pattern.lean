import BatchLens.Pattern.Search
import BatchLens.Proofs.Text.Cut

/-!
# What patterns find

A pattern that is tried between two characters of a text takes a run of whole characters, and what
it marks is a part of that run (`takesFrom_of_mem_hits`). So whatever the pattern is, a search finds
tokens that are parts of the text (`isPart_of_mem_findAll`): none of them begins or ends inside
a character, and none leaves the text.
-/

namespace BatchLens

/-- The place between the two halves of a text. -/
def Place.between (before behind : Text) : Place :=
  ⟨before.getLast?, before.byteLen, behind⟩

theorem Place.after_between (before : Text) (c : Char) (rest : Text) :
    (Place.between before (c :: rest)).after c rest = Place.between (before ++ [c]) rest := by
  simp [Place.after, Place.between]

/-- Whether a match between two halves of a text takes some characters of the second half, and
marks a part of these as its token, if it marks one. -/
def Hit.TakesFrom (hit : Hit) (before behind : Text) : Prop :=
  ∃ taken rest, behind = taken ++ rest ∧ hit.place = Place.between (before ++ taken) rest ∧
    ∀ range, hit.token = some range →
      ∃ front token back, taken = front ++ token ++ back ∧
        range = ⟨(before ++ front).byteLen, (before ++ front ++ token).byteLen⟩

namespace Hit

/-- A match without a token takes what lies between its ends. -/
theorem takesFrom_of_place (before taken rest : Text) :
    Hit.TakesFrom ⟨Place.between (before ++ taken) rest, none⟩ before (taken ++ rest) := by
  refine ⟨taken, rest, rfl, rfl, ?_⟩
  intro range marked
  exact absurd marked (by simp)

theorem takesFrom_nothing (before behind : Text) :
    Hit.TakesFrom ⟨Place.between before behind, none⟩ before behind := by
  simpa using takesFrom_of_place before [] behind

/-- Two matches in a row take what the two take, and the token of the first counts. -/
theorem TakesFrom.followed {first second : Hit} {before behind : Text}
    (firstTakes : first.TakesFrom before behind)
    (secondTakes : ∀ middle rest, first.place = Place.between middle rest →
      second.TakesFrom middle rest) :
    Hit.TakesFrom ⟨second.place, first.token.or second.token⟩ before behind := by
  rcases firstTakes with ⟨firstTaken, between, rfl, firstPlace, firstMarks⟩
  rcases secondTakes _ _ firstPlace with ⟨secondTaken, rest, rfl, secondPlace, secondMarks⟩
  refine ⟨firstTaken ++ secondTaken, rest, by simp, by simpa using secondPlace, ?_⟩
  intro range marked
  rcases Option.or_eq_some_iff.mp marked with firstToken | ⟨_, secondToken⟩
  · rcases firstMarks range firstToken with ⟨front, token, back, rfl, rangeEq⟩
    exact ⟨front, token, back ++ secondTaken, by simp, rangeEq⟩
  · rcases secondMarks range secondToken with ⟨front, token, back, rfl, rangeEq⟩
    exact ⟨firstTaken ++ front, token, back, by simp, by simpa using rangeEq⟩

theorem TakesFrom.marked {hit : Hit} {before behind : Text} (takes : hit.TakesFrom before behind) :
    Hit.TakesFrom ⟨hit.place, some ⟨before.byteLen, hit.place.offset⟩⟩ before behind := by
  rcases takes with ⟨taken, rest, rfl, place, _⟩
  refine ⟨taken, rest, rfl, place, ?_⟩
  intro range marked
  refine ⟨[], taken, [], by simp, ?_⟩
  rw [← Option.some.inj marked, place]
  simp [Place.between]

/-- The token of a match is a part of the text and, where none is marked, so is the match. -/
theorem TakesFrom.isPart {hit : Hit} {before behind : Text} (takes : hit.TakesFrom before behind) :
    (hit.token.getD ⟨before.byteLen, hit.place.offset⟩).IsPart (before ++ behind) := by
  rcases takes with ⟨taken, rest, rfl, place, marks⟩
  cases marked : hit.token with
  | none =>
      refine ⟨before, taken, rest, by simp, ?_⟩
      rw [place]
      rfl
  | some range =>
      rcases marks range marked with ⟨front, token, back, rfl, rangeEq⟩
      exact ⟨before ++ front, token, back ++ rest, by simp, rangeEq⟩

end Hit

namespace Pattern

/-- The places that are reached over characters of one kind lie behind the runs of these. -/
theorem mem_runs {test : Char → Bool} {nearer : List Place} {before behind : Text}
    {reached : Place} :
    reached ∈ Place.runs test nearer before.getLast? before.byteLen behind ↔
      reached ∈ nearer ∨
        ∃ taken rest, behind = taken ++ rest ∧ (∀ c ∈ taken, test c = true) ∧
          reached = Place.between (before ++ taken) rest := by
  induction behind generalizing nearer before with
  | nil =>
      rw [Place.runs, List.mem_cons, or_comm]
      apply or_congr_right
      constructor
      · rintro rfl
        exact ⟨[], [], rfl, by simp, by simp [Place.between]⟩
      · rintro ⟨taken, rest, cut, _, rfl⟩
        obtain ⟨rfl, rfl⟩ := List.append_eq_nil_iff.mp cut.symm
        simp [Place.between]
  | cons c rest ih =>
      have here : Place.mk before.getLast? before.byteLen (c :: rest) =
          Place.between (before ++ []) (c :: rest) := by
        simp [Place.between]
      rw [Place.runs]
      split
      next passes =>
        have next : Place.runs test (⟨before.getLast?, before.byteLen, c :: rest⟩ :: nearer)
            (some c) (before.byteLen + c.utf8Size) rest =
            Place.runs test (⟨before.getLast?, before.byteLen, c :: rest⟩ :: nearer)
              (before ++ [c]).getLast? (before ++ [c]).byteLen rest := by
          simp
        rw [next, ih, List.mem_cons, or_comm (a := reached = _), or_assoc]
        apply or_congr_right
        constructor
        · rintro (rfl | ⟨taken, behind, rfl, pass, rfl⟩)
          · exact ⟨[], c :: rest, rfl, by simp, here⟩
          · exact ⟨c :: taken, behind, rfl, by simpa using ⟨passes, pass⟩, by simp⟩
        · rintro ⟨taken, behind, cut, pass, rfl⟩
          rcases List.cons_eq_append_iff.mp cut with ⟨rfl, rfl⟩ | ⟨others, rfl, rfl⟩
          · exact .inl here.symm
          · refine .inr ⟨others, behind, rfl, ?_, by simp⟩
            intro d isOther
            exact pass d (List.mem_cons_of_mem c isOther)
      next stops =>
        rw [List.mem_cons, or_comm]
        apply or_congr_right
        constructor
        · rintro rfl
          exact ⟨[], c :: rest, rfl, by simp, here⟩
        · rintro ⟨taken, behind, cut, pass, rfl⟩
          rcases List.cons_eq_append_iff.mp cut with ⟨rfl, rfl⟩ | ⟨others, rfl, rfl⟩
          · exact here.symm
          · exact absurd (pass c List.mem_cons_self) stops

/-- Every match of a pattern takes a run of whole characters. -/
theorem takesFrom_of_mem_hits {pattern : Pattern} {before behind : Text} {hit : Hit}
    (isHit : hit ∈ pattern.hits (Place.between before behind)) : hit.TakesFrom before behind := by
  induction pattern generalizing before behind hit with
  | empty =>
      rw [List.mem_singleton.mp isHit]
      exact Hit.takesFrom_nothing before behind
  | textStart =>
      simp only [hits, List.mem_ite_nil_right, List.mem_singleton] at isHit
      rw [isHit.2]
      exact Hit.takesFrom_nothing before behind
  | wordBoundary =>
      simp only [hits, List.mem_ite_nil_right, List.mem_singleton] at isHit
      rw [isHit.2]
      exact Hit.takesFrom_nothing before behind
  | one test =>
      cases behind with
      | nil => exact absurd isHit (by simp [hits, Place.between])
      | cons c rest =>
          have passes : hit ∈ if test c then [Hit.mk (Place.between (before ++ [c]) rest) none]
              else [] := by
            rw [← Place.after_between]
            exact isHit
          simp only [List.mem_ite_nil_right, List.mem_singleton] at passes
          rw [passes.2]
          exact Hit.takesFrom_of_place before [c] rest
  | many test =>
      rcases List.mem_map.mp isHit with ⟨reached, isReached, rfl⟩
      rcases mem_runs.mp isReached with isNearer | ⟨taken, rest, cut, _, rfl⟩
      · exact absurd isNearer List.not_mem_nil
      · have rests : behind = taken ++ rest := cut
        rw [rests]
        exact Hit.takesFrom_of_place before taken rest
  | seq first second ihFirst ihSecond =>
      rcases List.mem_flatMap.mp isHit with ⟨firstHit, isFirst, inSecond⟩
      rcases List.mem_map.mp inSecond with ⟨secondHit, isSecond, rfl⟩
      apply (ihFirst isFirst).followed
      intro middle rest place
      rw [place] at isSecond
      exact ihSecond isSecond
  | either first second ihFirst ihSecond =>
      rcases List.mem_append.mp isHit with isFirst | isSecond
      · exact ihFirst isFirst
      · exact ihSecond isSecond
  | token body ih =>
      rcases List.mem_map.mp isHit with ⟨bodyHit, isBody, rfl⟩
      exact (ih isBody).marked

theorem isPart_of_mem_tokensFrom {pattern : Pattern} {before behind : Text} {resume : Nat}
    {range : ByteRange}
    (found : range ∈ pattern.tokensFrom before.getLast? before.byteLen resume behind) :
    range.IsPart (before ++ behind) := by
  induction behind generalizing before resume with
  | nil => exact absurd found List.not_mem_nil
  | cons c rest ih =>
      -- What is found behind the first character is found with that character in front.
      have later : ∀ {resume : Nat},
          range ∈ pattern.tokensFrom (some c) (before.byteLen + c.utf8Size) resume rest →
            range.IsPart (before ++ c :: rest) := by
        intro resume isLater
        have moved : range ∈ pattern.tokensFrom (before ++ [c]).getLast? (before ++ [c]).byteLen
            resume rest := by
          simpa using isLater
        simpa using ih moved
      simp only [tokensFrom] at found
      split at found
      next => exact later found
      next =>
        split at found
        next => exact later found
        next hit isFirst =>
          rcases List.mem_cons.mp found with rfl | isLater
          · have isHit : hit ∈ pattern.hits (Place.between before (c :: rest)) :=
              List.mem_of_mem_head? isFirst
            exact (takesFrom_of_mem_hits isHit).isPart
          · exact later isLater

/-- A search finds parts of the text, none of them empty. -/
theorem isPart_of_mem_findAll {pattern : Pattern} {text : Text} {range : ByteRange}
    (found : range ∈ pattern.findAll text) : range.IsPart text ∧ range.start < range.stop := by
  rcases List.mem_filter.mp found with ⟨isToken, nonempty⟩
  have fromStart : range ∈ pattern.tokensFrom (List.getLast? []) (Text.byteLen []) 0 text := isToken
  exact ⟨isPart_of_mem_tokensFrom fromStart, of_decide_eq_true nonempty⟩

end Pattern

end BatchLens
