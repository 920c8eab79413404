import BatchLens.Unicode.Fold
import BatchLens.Unicode.LowerCase
import BatchLens.Unicode.Space
import BatchLens.Unicode.WordChar

/-!
# Letters that have another case

Only few characters are changed when the case of letters is ignored: the capital letters of ASCII,
and the two letters outside ASCII that fold to one. So a property of characters that regards no
case has to be compared for these alone (`toLower_eq_self_or_mem`, `foldToAscii_eq_self_or_mem`).
What folds to small letters of ASCII has these for its lower case, but for the long s, which is
a small letter already (`lowercaseAfter_of_foldToAscii`). White space consists of few characters as
well, none of which belongs to a word (`isWhiteSpace_of_isWordChar`).
-/

namespace BatchLens.Unicode

/-- The capital letters of ASCII. -/
def capitals : List Char := "ABCDEFGHIJKLMNOPQRSTUVWXYZ".toList

/-- The characters that fold to another one. -/
def folding : List Char := 'ſ' :: '\u212a' :: capitals

/-- Every character is its own small letter or a capital. -/
theorem toLower_eq_self_or_mem (c : Char) : c.toLower = c ∨ c ∈ capitals := by
  by_cases isCapital : c.val ≥ 'A'.val ∧ c.val ≤ 'Z'.val
  · right
    have inRange : c.toNat - 65 < 26 ∧ c = Char.ofNat (65 + (c.toNat - 65)) := by
      rcases isCapital with ⟨lower, upper⟩
      have lower : 65 ≤ c.toNat := UInt32.le_iff_toNat_le.mp lower
      have upper : c.toNat ≤ 90 := UInt32.le_iff_toNat_le.mp upper
      refine ⟨by omega, ?_⟩
      rw [Nat.add_sub_cancel' lower, Char.ofNat_toNat]
    have areCapitals : ∀ index < 26, Char.ofNat (65 + index) ∈ capitals := by decide
    rw [inRange.2]
    exact areCapitals _ inRange.1
  · left
    exact dif_neg isCapital

/-- What regards no case of the capital letters regards no case at all. -/
theorem apply_toLower_of_capitals {Result : Type} [DecidableEq Result] {f : Char → Result}
    (same : capitals.all (fun c => f c.toLower == f c) = true) (c : Char) : f c.toLower = f c := by
  rcases toLower_eq_self_or_mem c with isSmall | isCapital
  · rw [isSmall]
  · exact beq_iff_eq.mp (List.all_eq_true.mp same c isCapital)

theorem toUpper_toLower (c : Char) : c.toLower.toUpper = c.toUpper :=
  apply_toLower_of_capitals (f := Char.toUpper) (by decide) c

theorem toLower_toUpper (c : Char) : c.toUpper.toLower = c.toLower := by
  by_cases isSmall : c.val ≥ 'a'.val ∧ c.val ≤ 'z'.val
  · rcases isSmall with ⟨lower, upper⟩
    have lower : 97 ≤ c.toNat := UInt32.le_iff_toNat_le.mp lower
    have upper : c.toNat ≤ 122 := UInt32.le_iff_toNat_le.mp upper
    have areSmall : ∀ index < 26, (Char.ofNat (97 + index)).toUpper.toLower =
        (Char.ofNat (97 + index)).toLower := by
      decide
    have same := areSmall (c.toNat - 97) (by omega)
    rwa [Nat.add_sub_cancel' lower, Char.ofNat_toNat] at same
  · exact congrArg Char.toLower (dif_neg isSmall)

/-- Every character folds to itself or is one of the letters that fold to another one. -/
theorem foldToAscii_eq_self_or_mem (c : Char) :
    foldToAscii c = c ∨ c ∈ folding := by
  rw [foldToAscii]
  split
  next isLongS => exact .inr (by rw [beq_iff_eq.mp isLongS]; exact List.mem_cons_self)
  next =>
    split
    next isKelvin =>
      right
      have same : c = '\u212a' := Char.toNat_inj.mp (beq_iff_eq.mp isKelvin)
      rw [same]
      exact List.mem_cons_of_mem _ List.mem_cons_self
    next =>
      rcases toLower_eq_self_or_mem c with same | isCapital
      · exact .inl same
      · exact .inr (List.mem_cons_of_mem _ (List.mem_cons_of_mem _ isCapital))

/-- What folds to a character that passes a test passes it too, if the letters do that fold to
another one. -/
theorem passes_of_foldToAscii {test : Char → Bool} (lettersPass : folding.all test = true)
    {c : Char} (folds : test (foldToAscii c) = true) : test c = true := by
  rcases foldToAscii_eq_self_or_mem c with same | isLetter
  · rwa [same] at folds
  · exact List.all_eq_true.mp lettersPass c isLetter

/-- A character folds to its small letter, but for the long s and the Kelvin sign. -/
theorem foldToAscii_eq_toLower_or (c : Char) :
    foldToAscii c = c.toLower ∨
      (foldToAscii c = 's' ∨ foldToAscii c = 'k') ∧ (c.toLower = 'ſ' ∨ c.toLower = '\u212a') := by
  by_cases special : c = 'ſ' ∨ c = '\u212a'
  · right
    rcases special with rfl | rfl <;> decide
  · left
    have notKelvin : ¬c.toNat = 0x212A := fun same => special (.inr (Char.toNat_inj.mp same))
    simp [foldToAscii, not_or.mp special, notKelvin]

/-- To fold a text is to put it in lower case where no s and no k is the result. -/
theorem map_foldToAscii_eq_iff {text letters : List Char}
    (noneFolds : ∀ c ∈ letters, c ∉ ['s', 'k', 'ſ', '\u212a']) :
    text.map foldToAscii = letters ↔ text.map Char.toLower = letters := by
  induction text generalizing letters with
  | nil => exact Iff.rfl
  | cons c rest ih =>
      cases letters with
      | nil => simp
      | cons letter others =>
          rcases List.forall_mem_cons.mp noneFolds with ⟨isOther, areOthers⟩
          have sameFirst : foldToAscii c = letter ↔ c.toLower = letter := by
            rcases foldToAscii_eq_toLower_or c with same | ⟨folds, isSmall⟩
            · rw [same]
            · constructor
              · rintro rfl
                rcases folds with folds | folds <;> simp [folds] at isOther
              · rintro rfl
                rcases isSmall with isSmall | isSmall <;> simp [isSmall] at isOther
          rw [List.map_cons, List.map_cons, List.cons.injEq, List.cons.injEq, sameFirst,
            ih areOthers]

/-! ## Lower case -/

/-- The small letter of a character that folds to one: the long s is a small letter itself. -/
def smallLetterOf (c : Char) : Char := if c = 'ſ' then 'ſ' else foldToAscii c

theorem toLower_of_isLower {c : Char} (small : c.isLower = true) : c.toLower = c := by
  rcases toLower_eq_self_or_mem c with same | isCapital
  · exact same
  · have noneIsSmall : capitals.all (!·.isLower) = true := by decide
    exact absurd small (by simpa using List.all_eq_true.mp noneIsSmall c isCapital)

theorem lowerChar_of_isLower {c : Char} (small : c.isLower = true) : lowerChar c = [c] := by
  have ascii : isAscii c = true := by
    have inRange := Bool.and_eq_true_iff.mp small
    have upper : c.toNat ≤ 'z'.toNat := UInt32.le_iff_toNat_le.mp (of_decide_eq_true inRange.2)
    exact decide_eq_true (Nat.lt_of_le_of_lt upper (by decide))
  rw [lowerChar, if_pos ascii, toLower_of_isLower small]

theorem lowerChar_of_foldToAscii {c : Char} (isLetter : (foldToAscii c).isLower = true) :
    lowerChar c = [smallLetterOf c] := by
  rcases foldToAscii_eq_self_or_mem c with same | folds
  · rw [same] at isLetter
    have notLongS : c ≠ 'ſ' := by
      rintro rfl
      exact absurd isLetter (by decide)
    rw [lowerChar_of_isLower isLetter, smallLetterOf, if_neg notLongS, same]
  · have areFolding : folding.all (fun c => lowerChar c == [smallLetterOf c]) = true := by
      decide +kernel
    exact beq_iff_eq.mp (List.all_eq_true.mp areFolding c folds)

theorem lowercaseAfter_of_foldToAscii {before text : List Char}
    (areLetters : ∀ c ∈ text, (foldToAscii c).isLower = true) :
    lowercaseAfter before text = text.map smallLetterOf := by
  induction text generalizing before with
  | nil => rfl
  | cons c rest ih =>
      rcases List.forall_mem_cons.mp areLetters with ⟨isLetter, others⟩
      have isOther : c ≠ 'Σ' := by
        rintro rfl
        exact absurd isLetter (by decide)
      rw [lowercaseAfter, ih others, lowerChar_of_foldToAscii isLetter,
        if_neg (by simpa using isOther), List.map_cons, List.singleton_append]

/-! ## Word characters -/

/-- The code points of white space. -/
def whiteSpaces : List Nat :=
  List.range' 0x09 5 ++ [0x20, 0x85, 0xA0, 0x1680] ++ List.range' 0x2000 11 ++
    [0x2028, 0x2029, 0x202F, 0x205F, 0x3000]

theorem toNat_mem_whiteSpaces {c : Char} (space : isWhiteSpace c = true) :
    c.toNat ∈ whiteSpaces := by
  simp only [isWhiteSpace, Bool.or_eq_true, Bool.and_eq_true, decide_eq_true_eq, beq_iff_eq]
    at space
  simp only [whiteSpaces, List.mem_append, List.mem_range'_1, List.mem_cons, List.not_mem_nil,
    or_false]
  omega

theorem isWordChar_toLower (c : Char) : isWordChar c.toLower = isWordChar c :=
  apply_toLower_of_capitals (by decide +kernel) c

theorem isWhiteSpace_of_isWordChar {c : Char} (isWord : isWordChar c = true) :
    isWhiteSpace c = false := by
  have noWords : ∀ code ∈ whiteSpaces, isWordChar (Char.ofNat code) = false := by decide +kernel
  rw [Bool.eq_false_iff]
  intro space
  have noWord := noWords c.toNat (toNat_mem_whiteSpaces space)
  rw [Char.ofNat_toNat, isWord] at noWord
  exact Bool.noConfusion noWord

end BatchLens.Unicode
