import BatchLens.Pattern.Search
import BatchLens.Proofs.Text.Cut
import BatchLens.Proofs.Unicode.Letters

/-!
# Patterns that regard no case

A pattern regards no case if none of its tests tells a capital letter from the small one, which can
be checked for the finitely many capitals (`Pattern.ignoresCase`). Such a pattern matches a text in
lower case in the same ways, in the same order, as the text itself (`hits_asciiLower`), and so finds
tokens in the same ranges (`findAll_asciiLower`).
-/

namespace BatchLens

namespace Text

@[simp]
theorem asciiLower_nil : asciiLower [] = [] := rfl

@[simp]
theorem asciiLower_cons (c : Char) (rest : Text) :
    asciiLower (c :: rest) = c.toLower :: asciiLower rest := rfl

end Text

@[simp]
theorem Unicode.utf8Size_toLower (c : Char) : c.toLower.utf8Size = c.utf8Size :=
  apply_toLower_of_capitals (by decide) c

/-- A place of a text, in the text in lower case. -/
def Place.asciiLower (place : Place) : Place :=
  ⟨place.previous.map Char.toLower, place.offset, place.rest.asciiLower⟩

/-- A match in a text, in the text in lower case. -/
def Hit.asciiLower (hit : Hit) : Hit := ⟨hit.place.asciiLower, hit.token⟩

namespace Place

theorem asciiLower_after (place : Place) (c : Char) (rest : Text) :
    place.asciiLower.after c.toLower rest.asciiLower = (place.after c rest).asciiLower := by
  simp [after, asciiLower]

theorem atWordBoundary_asciiLower (place : Place) :
    place.asciiLower.atWordBoundary = place.atWordBoundary := by
  rw [atWordBoundary, atWordBoundary, asciiLower]
  cases place.previous <;> cases place.rest <;> simp [Unicode.isWordChar_toLower]

theorem runs_asciiLower {test : Char → Bool} (same : ∀ c, test c.toLower = test c)
    (nearer : List Place) (previous : Option Char) (offset : Nat) (text : Text) :
    runs test (nearer.map asciiLower) (previous.map Char.toLower) offset text.asciiLower =
      (runs test nearer previous offset text).map asciiLower := by
  induction text generalizing nearer previous offset with
  | nil => rfl
  | cons c rest ih =>
      rw [Text.asciiLower_cons, runs, runs, same, Unicode.utf8Size_toLower]
      split
      next => exact ih (⟨previous, offset, c :: rest⟩ :: nearer) (some c) (offset + c.utf8Size)
      next => rfl

end Place

namespace Pattern

/-- Whether no test of a pattern tells a capital letter from the small one. -/
def ignoresCase : Pattern → Bool
  | empty => true
  | textStart => true
  | wordBoundary => true
  | one test => Unicode.capitals.all fun c => test c.toLower == test c
  | many test => Unicode.capitals.all fun c => test c.toLower == test c
  | seq first second => first.ignoresCase && second.ignoresCase
  | either first second => first.ignoresCase && second.ignoresCase
  | token body => body.ignoresCase

theorem ignoresCase_anyOf {patterns : List Pattern}
    (all : ∀ pattern ∈ patterns, pattern.ignoresCase = true) :
    (anyOf patterns).ignoresCase = true := by
  induction patterns with
  | nil => rfl
  | cons pattern others ih =>
      have first := all pattern List.mem_cons_self
      have later := ih fun other isOther => all other (List.mem_cons_of_mem pattern isOther)
      cases others with
      | nil => exact first
      | cons next others => exact (Bool.and_eq_true _ _).mpr ⟨first, later⟩

variable {pattern : Pattern}

/-- A pattern that regards no case matches in the same ways, in the same order. -/
theorem hits_asciiLower (noCase : pattern.ignoresCase = true) (place : Place) :
    pattern.hits place.asciiLower = (pattern.hits place).map Hit.asciiLower := by
  induction pattern generalizing place with
  | empty => rfl
  | textStart =>
      have sameOffset : place.asciiLower.offset = place.offset := rfl
      simp only [hits, sameOffset]
      split <;> rfl
  | wordBoundary =>
      simp only [hits, Place.atWordBoundary_asciiLower]
      split <;> rfl
  | one test =>
      have same := Unicode.apply_toLower_of_capitals noCase
      rcases place with ⟨previous, offset, _ | ⟨c, rest⟩⟩
      · rfl
      · have next := Place.asciiLower_after ⟨previous, offset, c :: rest⟩ c rest
        simp only [hits, Place.asciiLower, Text.asciiLower_cons, same] at next ⊢
        split
        next => rw [next]; rfl
        next => rfl
  | many test =>
      have same := Unicode.apply_toLower_of_capitals noCase
      have runs := Place.runs_asciiLower same [] place.previous place.offset place.rest
      rw [List.map_nil] at runs
      simp only [hits, Place.asciiLower, runs, List.map_map]
      rfl
  | seq first second ihFirst ihSecond =>
      rcases (Bool.and_eq_true _ _).mp noCase with ⟨firstNoCase, secondNoCase⟩
      rw [hits, hits, ihFirst firstNoCase, List.flatMap_map, List.map_flatMap]
      congr 1
      funext hit
      have secondHits := ihSecond secondNoCase hit.place
      simp only [Hit.asciiLower, secondHits, List.map_map]
      rfl
  | either first second ihFirst ihSecond =>
      rcases (Bool.and_eq_true _ _).mp noCase with ⟨firstNoCase, secondNoCase⟩
      rw [hits, hits, ihFirst firstNoCase, ihSecond secondNoCase, List.map_append]
  | token body ih =>
      rw [hits, hits, ih noCase, List.map_map, List.map_map]
      rfl

theorem tokensFrom_asciiLower (noCase : pattern.ignoresCase = true) (previous : Option Char)
    (offset resume : Nat) (text : Text) :
    pattern.tokensFrom (previous.map Char.toLower) offset resume text.asciiLower =
      pattern.tokensFrom previous offset resume text := by
  induction text generalizing previous offset resume with
  | nil => rfl
  | cons c rest ih =>
      have sameHit : pattern.hit? ⟨previous.map Char.toLower, offset, Text.asciiLower (c :: rest)⟩ =
          (pattern.hit? ⟨previous, offset, c :: rest⟩).map Hit.asciiLower := by
        rw [hit?, hit?, ← List.head?_map]
        exact congrArg List.head? (hits_asciiLower noCase ⟨previous, offset, c :: rest⟩)
      rw [Text.asciiLower_cons] at sameHit ⊢
      rw [tokensFrom, tokensFrom, sameHit, Unicode.utf8Size_toLower]
      split
      next => exact ih (some c) (offset + c.utf8Size) resume
      next =>
        cases pattern.hit? ⟨previous, offset, c :: rest⟩ with
        | none => exact ih (some c) (offset + c.utf8Size) resume
        | some hit =>
            exact congrArg (_ :: ·) (ih (some c) (offset + c.utf8Size) hit.place.offset)

/-- A pattern that regards no case finds tokens in the same ranges of a text in lower case. -/
theorem findAll_asciiLower (noCase : pattern.ignoresCase = true) (text : Text) :
    pattern.findAll text.asciiLower = pattern.findAll text := by
  rw [findAll, findAll]
  exact congrArg (List.filter _) (tokensFrom_asciiLower noCase none 0 0 text)

end Pattern

end BatchLens
