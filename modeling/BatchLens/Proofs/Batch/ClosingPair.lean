import BatchLens.Proofs.Batch.Ranges
import BatchLens.Proofs.LinePartition

/-!
# Where a pair is closed

Whether a typed character has its closing half inserted is found out by trimming the end of its line
and comparing lengths. In the words of the line (`insertion?_eq_some_iff`), the character ends at
the offset, nothing but spaces and separators follows it, and if it closes itself it is an odd one
of its kind. Inside the break of a line no character ends, so that the offsets there need no case of
their own.
-/

namespace BatchLens

namespace Pairing

/-- A line cut around a character that opens a pair. Only spaces and separators stand behind it,
and a character that closes itself is an odd one of its kind. -/
structure OpensPair (before : Text) (typed : Char) (behind : Text) : Prop where
  isOpening : typed ∈ openingChars
  areTrailing : ∀ c ∈ behind, c ∈ [' ', ';', ',']
  isOdd : typed ∈ ['%', '"', '\x27'] → (before ++ [typed]).count typed % 2 = 1

variable {typed close : Char} {line before behind : Text} {column : Nat}

/-! ## The characters of a pair -/

theorem mem_openingChars_of_closing? (closes : closing? typed = some close) :
    typed ∈ openingChars := by
  by_contra notOpening
  simp only [openingChars, List.mem_cons, not_or] at notOpening
  simp [closing?, notOpening] at closes

theorem eq_of_mem_openingChars (isOpening : typed ∈ openingChars) :
    typed = '[' ∨ typed = '(' ∨ typed = '\x7b' ∨ typed = '%' ∨ typed = '"' ∨ typed = '\x27' := by
  simpa [openingChars] using isOpening

theorem exists_closing? (isOpening : typed ∈ openingChars) :
    ∃ close, closing? typed = some close := by
  rcases eq_of_mem_openingChars isOpening with rfl | rfl | rfl | rfl | rfl | rfl
  all_goals exact ⟨_, rfl⟩

theorem isSymmetric_iff : isSymmetric typed = true ↔ typed ∈ ['%', '"', '\x27'] := by
  constructor
  · intro symmetric
    have isOpening := mem_openingChars_of_closing? (beq_iff_eq.mp symmetric)
    revert symmetric
    rcases eq_of_mem_openingChars isOpening with rfl | rfl | rfl | rfl | rfl | rfl
    all_goals decide
  · intro closesItself
    simp only [List.mem_cons, List.not_mem_nil, or_false] at closesItself
    rcases closesItself with rfl | rfl | rfl
    all_goals rfl

/-- An opening character takes one byte and is not trimmed. -/
theorem utf8Size_of_mem_openingChars (isOpening : typed ∈ openingChars) :
    typed.utf8Size = 1 ∧ isTrailing typed = false := by
  rcases eq_of_mem_openingChars isOpening with rfl | rfl | rfl | rfl | rfl | rfl
  all_goals decide

/-- In a line there are no breaks, so that only spaces and separators are trimmed. -/
theorem isTrailing_iff {c : Char} (plain : Unicode.isLineBreak c = false) :
    isTrailing c = true ↔ c ∈ [' ', ';', ','] := by
  have notReturn : c ≠ '\r' := by
    rintro rfl
    exact absurd plain (by decide)
  have notFeed : c ≠ '\n' := by
    rintro rfl
    exact absurd plain (by decide)
  simp [isTrailing, notReturn, notFeed, or_assoc]

/-- What is known of a closing character. -/
structure IsClosing (typed close : Char) : Prop where
  oneByte : close.utf8Size = 1
  plain : Unicode.isLineBreak close = false
  notTrailing : close ∉ [' ', ';', ',']
  symmetric_of_opening : close ∈ openingChars → typed ∈ ['%', '"', '\x27']
  eq_of_symmetric : typed ∈ ['%', '"', '\x27'] → close = typed

theorem of_closing? (closes : closing? typed = some close) : IsClosing typed close := by
  have isOpening := mem_openingChars_of_closing? closes
  rcases eq_of_mem_openingChars isOpening with rfl | rfl | rfl | rfl | rfl | rfl
  all_goals
    obtain rfl := Option.some.inj closes
    exact ⟨by decide, by decide, by decide, by decide, by decide⟩

namespace OpensPair

/-- Behind the pair there is no further character of its kind. -/
theorem count_odd {passed : Text} (opens : OpensPair before typed behind)
    (closesItself : typed ∈ ['%', '"', '\x27']) (arePassed : ∀ c ∈ passed, c ∈ behind) :
    (before ++ [typed] ++ passed).count typed % 2 = 1 := by
  have notTrailing : typed ∉ [' ', ';', ','] := by
    simp only [List.mem_cons, List.not_mem_nil, or_false] at closesItself
    rcases closesItself with rfl | rfl | rfl
    all_goals decide
  have noneBehind : passed.count typed = 0 := by
    apply List.count_eq_zero_of_not_mem
    intro isIn
    exact notTrailing (opens.areTrailing typed (arePassed typed isIn))
  rw [List.count_append, noneBehind, Nat.add_zero]
  exact opens.isOdd closesItself

/-- The closing character opens no pair itself. -/
theorem not_opensPair_behind {rest : Text} (opens : OpensPair before typed behind)
    (closes : closing? typed = some close) (passed : Text) (arePassed : ∀ c ∈ passed, c ∈ behind) :
    ¬OpensPair (before ++ [typed] ++ passed) close rest := by
  intro opensAgain
  have closesItself := (of_closing? closes).symmetric_of_opening opensAgain.isOpening
  obtain rfl := (of_closing? closes).eq_of_symmetric closesItself
  have isOdd := opensAgain.isOdd closesItself
  have wasOdd := opens.count_odd closesItself arePassed
  rw [List.count_append, List.count_singleton_self] at isOdd
  omega

end OpensPair

/-! ## The decision on a line -/

/-- What is left of a line when its end is trimmed ends in the typed character if and only if all
behind that character is trimmed. -/
theorem canComplete_iff (isOpening : typed ∈ openingChars) :
    canComplete (before ++ typed :: behind) before.byteLen = true ↔
      ∀ c ∈ behind, isTrailing c = true := by
  rcases utf8Size_of_mem_openingChars isOpening with ⟨oneByte, notTrailing⟩
  have length : Text.byteLen (before ++ [typed]) = before.byteLen + 1 := by
    rw [Text.byteLen_append, Text.byteLen_cons, oneByte, Text.byteLen_nil]
  rw [canComplete, beq_iff_eq, ← length, List.append_cons]
  constructor
  · intro sameLength c isIn
    have cut := Text.dropEndWhile_append_takeEndWhile isTrailing (before ++ [typed] ++ behind)
    have trimmed := (Text.cut_eq_of_byteLen_eq cut sameLength).2
    rw [← trimmed] at isIn
    exact Text.of_mem_takeEndWhile isIn
  · intro areTrailing
    rw [(Text.takeEndWhile_run areTrailing (by simp [notTrailing])).2]

theorem takeBytes_typed (before : Text) (typed : Char) (behind : Text) :
    Text.takeBytes (before ++ [typed]).byteLen (before ++ typed :: behind) = before ++ [typed] := by
  have cut := Text.takeBytes_cut (before ++ [typed]) behind
  rwa [List.append_assoc before, List.singleton_append] at cut

/-- The typed character is looked for in front of the column, and all behind it is trimmed. -/
theorem found_iff (isOpening : typed ∈ openingChars) :
    (¬column < typed.utf8Size ∧
        ∃ rest, line.slice? ⟨column - typed.utf8Size, line.byteLen⟩ = some rest ∧
          rest.head? = some typed ∧ canComplete line (column - typed.utf8Size) = true) ↔
      ∃ before behind, line = before ++ typed :: behind ∧ (before ++ [typed]).byteLen = column ∧
        ∀ c ∈ behind, isTrailing c = true := by
  constructor
  · rintro ⟨enough, rest, found, isHead, completes⟩
    rcases List.head?_eq_some_iff.mp isHead with ⟨behind, rfl⟩
    rcases Text.exists_cut_of_slice? found with ⟨before, rfl, length⟩
    rw [← length] at completes
    refine ⟨before, behind, rfl, ?_, (canComplete_iff isOpening).mp completes⟩
    rw [Text.byteLen_append, length, Text.byteLen_cons, Text.byteLen_nil]
    omega
  · rintro ⟨before, behind, rfl, rfl, areTrailing⟩
    have start : Text.byteLen (before ++ [typed]) - typed.utf8Size = before.byteLen := by simp
    have found := Text.slice?_cut before (typed :: behind) []
    rw [List.append_nil] at found
    rw [start]
    refine ⟨by simp, typed :: behind, found, rfl, (canComplete_iff isOpening).mpr areTrailing⟩

end Pairing

namespace Document

open Pairing

variable {document : Document} {offset place : Nat} {typed close : Char}

/-- Whether the character that ends at an offset opens a pair in the line that holds the offset. -/
def OpensPairAt (document : Document) (offset : Nat) (typed : Char) : Prop :=
  ∃ before behind, document.line (document.lineOfOffset offset) = before ++ typed :: behind ∧
    document.lineStart (document.lineOfOffset offset) + (before ++ [typed]).byteLen =
      document.clamp offset ∧
    OpensPair before typed behind

theorem insertion?_eq_some :
    insertion? document offset typed = some (place, close) ↔
      closing? typed = some close ∧ place = document.clamp offset ∧
        document.OpensPairAt offset typed := by
  simp only [insertion?, Option.bind_eq_bind, Option.bind_none, Option.ite_none_left_eq_some,
    Option.bind_eq_some_iff, Option.some.injEq, Prod.mk.injEq, Bool.not_eq_true', Bool.and_eq_true,
    not_and, bne_iff_ne, ne_eq, not_not, lineOfOffset_clamp, Bool.not_eq_false, beq_iff_eq]
  have starts := (document.lineOfOffset_holds offset).1
  have plain := document.line_plain (document.lineOfOffset offset)
  generalize column_eq : document.clamp offset - document.lineStart (document.lineOfOffset offset) =
    column
  constructor
  · rintro ⟨_, closes, enough, rest, found, isHead, completes, isOdd, rfl, rfl⟩
    have isOpening := mem_openingChars_of_closing? closes
    rcases (found_iff isOpening).mp ⟨enough, rest, found, isHead, completes⟩ with
      ⟨before, behind, line, rfl, areTrailing⟩
    refine ⟨closes, rfl, before, behind, line, by omega, isOpening, ?_, ?_⟩
    · intro c isIn
      exact (isTrailing_iff (plain c (by simp [line, isIn]))).mp (areTrailing c isIn)
    · intro closesItself
      have notEven := isOdd (isSymmetric_iff.mpr closesItself)
      rw [line, takeBytes_typed] at notEven
      omega
  · rintro ⟨closes, rfl, before, behind, line, ends, opens⟩
    obtain rfl : (before ++ [typed]).byteLen = column := by omega
    have areTrailing : ∀ c ∈ behind, isTrailing c = true := by
      intro c isIn
      exact (isTrailing_iff (plain c (by simp [line, isIn]))).mpr (opens.areTrailing c isIn)
    rcases (found_iff opens.isOpening).mpr ⟨before, behind, line, rfl, areTrailing⟩ with
      ⟨enough, rest, found, isHead, completes⟩
    refine ⟨close, closes, enough, rest, found, isHead, completes, ?_, rfl, rfl⟩
    intro symmetric
    have isOdd := opens.isOdd (isSymmetric_iff.mp symmetric)
    rw [line, takeBytes_typed]
    omega

theorem insertion?_eq_none (notOpening : ¬document.OpensPairAt offset typed) :
    insertion? document offset typed = none := by
  apply Option.eq_none_iff_forall_ne_some.mpr
  rintro ⟨place, close⟩ answered
  exact notOpening (insertion?_eq_some.mp answered).2.2

/-- A pair is closed at the offset, rounded down to a boundary, if and only if the typed character
ends there and opens the pair. -/
theorem insertion?_eq_some_iff (document : Document) (offset : Nat) (typed : Char) :
    ((∃ close, closing? typed = some close ∧
        insertion? document offset typed = some (document.clamp offset, close)) ↔
      document.OpensPairAt offset typed) ∧
      (¬document.OpensPairAt offset typed → insertion? document offset typed = none) := by
  refine ⟨⟨?_, ?_⟩, insertion?_eq_none⟩
  · rintro ⟨close, _, answered⟩
    exact (insertion?_eq_some.mp answered).2.2
  · intro opensAt
    have isOpening : typed ∈ openingChars := by
      rcases opensAt with ⟨before, behind, _, _, opens⟩
      exact opens.isOpening
    rcases exists_closing? isOpening with ⟨close, closes⟩
    exact ⟨close, closes, insertion?_eq_some.mpr ⟨closes, rfl, opensAt⟩⟩

/-! ## Once the pair is closed -/

/-- The place where a pair is closed lies in the content of its line. -/
theorem OpensPairAt.exists_located (opensAt : document.OpensPairAt offset typed) :
    ∃ earlier before behind ending later,
      document.Located (document.clamp offset) earlier (before ++ [typed]) behind ending later ∧
        OpensPair before typed behind := by
  rcases opensAt with ⟨before, behind, line, ends, opens⟩
  rcases Line.exists_split (document.lineOfOffset_lt offset) with
    ⟨earlier, ⟨content, ending⟩, later, lines, number⟩
  rw [← number, line_of_lines lines] at line
  obtain rfl : content = before ++ typed :: behind := line
  rw [← number, lineStart_of_lines lines] at ends
  refine ⟨earlier, before, behind, ending, later, ⟨?_, ?_⟩, opens⟩
  · rw [lines, List.append_assoc, List.singleton_append]
  · rw [← ends, Text.byteLen_append (Line.joined earlier)]

theorem Located.opensPairAt_iff {earlier later : List Line} {column rest ending : Text}
    (located : document.Located offset earlier column rest ending later) :
    document.OpensPairAt offset typed ↔ ∃ front, column = front ++ [typed] ∧
      OpensPair front typed rest := by
  rw [OpensPairAt, located.lineOfOffset_eq, located.line_eq, located.lineStart_eq,
    located.clamp_eq, located.offset_eq, Text.byteLen_append _ column]
  constructor
  · rintro ⟨before, behind, line, ends, opens⟩
    rw [← List.singleton_append, ← List.append_assoc] at line
    obtain ⟨rfl, rfl⟩ := Text.cut_eq_of_byteLen_eq line (Nat.add_left_cancel ends).symm
    exact ⟨before, rfl, opens⟩
  · rintro ⟨before, rfl, opens⟩
    exact ⟨before, rest, by simp, rfl, opens⟩

/-- What has become of a document in which the pair of a typed character was closed at a place. The
place calls for no further character then, and neither does the one behind the new character. -/
structure PairClosed (document edited : Document) (place : Nat) (typed close : Char) : Prop where
  lineCount_eq : edited.lineCount = document.lineCount
  line_eq_of_ne : ∀ index, index ≠ document.lineOfOffset place →
    edited.line index = document.line index
  line_eq : ∃ before behind,
    document.line (document.lineOfOffset place) = before ++ typed :: behind ∧
      document.lineStart (document.lineOfOffset place) + (before ++ [typed]).byteLen = place ∧
      edited.line (document.lineOfOffset place) = before ++ typed :: close :: behind
  noneAtPlace : insertion? edited place typed = none
  noneBehind : insertion? edited (place + 1) close = none
  isEven : typed ∈ ['%', '"', '\x27'] →
    (edited.line (document.lineOfOffset place)).count typed % 2 = 0

theorem pairClosed_of_insertion?
    (answered : insertion? document offset typed = some (place, close)) :
    document.PairClosed (document.replace ⟨place, place⟩ [close]) place typed close := by
  rcases insertion?_eq_some.mp answered with ⟨closes, rfl, opensAt⟩
  rcases opensAt.exists_located with ⟨earlier, before, behind, ending, later, located, opens⟩
  have isClosing := of_closing? closes
  have plain : ∀ c ∈ [close], Unicode.isLineBreak c = false := by
    simp [isClosing.plain]
  have atPlace := located.replace_in_front plain
  have behindClose := located.replace_behind plain
  have edited := atPlace.line_eq
  simp only [List.append_assoc, List.singleton_append] at edited
  constructor
  · rw [lineCount_of_lines located.lines, lineCount_of_lines atPlace.lines]
  · intro index isOther
    rw [located.lineOfOffset_eq] at isOther
    exact line_eq_of_lines located.lines atPlace.lines isOther
  · rw [located.lineOfOffset_eq]
    refine ⟨before, behind, ?_, ?_, edited⟩
    · simpa using located.line_eq
    · rw [located.lineStart_eq, located.offset_eq, Text.byteLen_append (Line.joined earlier)]
  · apply insertion?_eq_none
    rw [atPlace.opensPairAt_iff]
    rintro ⟨front, _, opensAgain⟩
    exact isClosing.notTrailing (opensAgain.areTrailing close List.mem_cons_self)
  · have oneByte : Text.byteLen [close] = 1 := by simp [isClosing.oneByte]
    rw [oneByte] at behindClose
    apply insertion?_eq_none
    rw [behindClose.opensPairAt_iff]
    rintro ⟨front, column, opensAgain⟩
    obtain ⟨rfl, _⟩ := List.append_inj' column rfl
    apply opens.not_opensPair_behind closes [] (by simp)
    simpa using opensAgain
  · intro closesItself
    have isOdd := opens.count_odd closesItself (fun c isIn => isIn)
    obtain rfl := isClosing.eq_of_symmetric closesItself
    rw [located.lineOfOffset_eq, edited]
    simp only [List.count_append, List.count_cons_self, List.count_nil] at isOdd ⊢
    omega

end Document

end BatchLens
