import BatchLens.Text.Basic

/-!
# Cuts of a text

A byte offset on a character boundary cuts a text in two, and every statement about such an
offset is easier to read as one about the two halves. This file translates between them: a cut
decides what `takeBytes`, `dropBytes`, `clamp` and `slice` give at its offset
(`takeBytes_byteLen_add`, `slice_cut`), the offsets that are boundaries are those of cuts
(`isBoundary_iff`), and of two cuts of one text the one with the smaller offset comes first
(`cut_of_byteLen_le`), so that two cuts are the ends of a part (`isPart_of_cuts`).
-/

namespace BatchLens

namespace Text

@[simp]
theorem byteLen_nil : byteLen [] = 0 := rfl

@[simp]
theorem byteLen_cons (c : Char) (rest : Text) : byteLen (c :: rest) = c.utf8Size + rest.byteLen :=
  rfl

attribute [simp] byteLen_append

theorem byteLen_replicate (count : Nat) (c : Char) :
    byteLen (List.replicate count c) = count * c.utf8Size := by
  induction count with
  | zero => simp
  | succ count ih => rw [List.replicate_succ, byteLen_cons, ih, Nat.succ_mul, Nat.add_comm]

theorem byteLen_eq_zero_iff {text : Text} : text.byteLen = 0 ↔ text = [] := by
  cases text with
  | nil => simp
  | cons c rest =>
      have := c.utf8Size_pos
      simp only [byteLen_cons, reduceCtorEq, iff_false]
      omega

theorem byteLen_pos {text : Text} (nonempty : text ≠ []) : 0 < text.byteLen :=
  Nat.pos_of_ne_zero (mt byteLen_eq_zero_iff.mp nonempty)

@[simp]
theorem takeBytes_nil (budget : Nat) : takeBytes budget [] = [] := rfl

@[simp]
theorem dropBytes_nil (budget : Nat) : dropBytes budget [] = [] := rfl

@[simp]
theorem takeBytes_zero (text : Text) : takeBytes 0 text = [] := by
  cases text with
  | nil => rfl
  | cons c rest =>
      have := c.utf8Size_pos
      rw [takeBytes, if_neg (by omega)]

@[simp]
theorem dropBytes_zero (text : Text) : dropBytes 0 text = text := by
  simpa using takeBytes_append_dropBytes 0 text

theorem takeBytes_byteLen_add (left right : Text) (budget : Nat) :
    takeBytes (left.byteLen + budget) (left ++ right) = left ++ takeBytes budget right := by
  induction left with
  | nil => simp
  | cons c rest ih =>
      rw [List.cons_append, takeBytes, if_pos (by simp; omega)]
      have remaining : byteLen (c :: rest) + budget - c.utf8Size = byteLen rest + budget := by
        simp
        omega
      rw [remaining, ih, List.cons_append]

theorem dropBytes_byteLen_add (left right : Text) (budget : Nat) :
    dropBytes (left.byteLen + budget) (left ++ right) = dropBytes budget right := by
  have whole := takeBytes_append_dropBytes (left.byteLen + budget) (left ++ right)
  have rest := takeBytes_append_dropBytes budget right
  rw [takeBytes_byteLen_add, List.append_assoc] at whole
  exact List.append_cancel_left ((List.append_cancel_left whole).trans rest.symm)

@[simp]
theorem takeBytes_cut (left right : Text) : takeBytes left.byteLen (left ++ right) = left := by
  simpa using takeBytes_byteLen_add left right 0

@[simp]
theorem dropBytes_cut (left right : Text) : dropBytes left.byteLen (left ++ right) = right := by
  simpa using dropBytes_byteLen_add left right 0

@[simp]
theorem clamp_cut (left right : Text) : clamp (left ++ right) left.byteLen = left.byteLen := by
  rw [clamp, takeBytes_cut]

/-- Every offset is rounded down to the offset of a cut. -/
theorem exists_cut_clamp (text : Text) (offset : Nat) :
    ∃ before behind, text = before ++ behind ∧ before.byteLen = text.clamp offset :=
  ⟨takeBytes offset text, dropBytes offset text, (takeBytes_append_dropBytes offset text).symm,
    rfl⟩

/-- The boundaries of a text are the offsets at which it can be cut. -/
theorem isBoundary_iff {text : Text} {offset : Nat} :
    text.isBoundary offset = true ↔
      ∃ before behind, text = before ++ behind ∧ before.byteLen = offset := by
  rw [isBoundary, beq_iff_eq]
  constructor
  · intro settled
    rcases exists_cut_clamp text offset with ⟨before, behind, cut, length⟩
    exact ⟨before, behind, cut, length.trans settled⟩
  · rintro ⟨before, behind, rfl, rfl⟩
    exact clamp_cut before behind

theorem slice_cut (before middle behind : Text) :
    slice (before ++ middle ++ behind) before.byteLen (before ++ middle).byteLen = middle := by
  have ordered : max before.byteLen (before ++ middle).byteLen = (before ++ middle).byteLen := by
    simp
  rw [slice, ordered, takeBytes_cut, dropBytes_cut]

theorem slice?_cut (before middle behind : Text) :
    slice? (before ++ middle ++ behind) ⟨before.byteLen, (before ++ middle).byteLen⟩ =
      some middle := by
  have first : isBoundary (before ++ middle ++ behind) before.byteLen = true :=
    isBoundary_iff.mpr ⟨before, middle ++ behind, List.append_assoc .., rfl⟩
  have second : isBoundary (before ++ middle ++ behind) (before ++ middle).byteLen = true :=
    isBoundary_iff.mpr ⟨before ++ middle, behind, rfl, rfl⟩
  have ordered : before.byteLen ≤ (before ++ middle).byteLen := by simp
  simp only [slice?, first, second, ordered, decide_true, Bool.and_self, if_true, slice_cut]

/-- What reaches from an offset to the end of a text is cut off at that offset. -/
theorem exists_cut_of_slice? {text behind : Text} {start : Nat}
    (found : text.slice? ⟨start, text.byteLen⟩ = some behind) :
    ∃ before, text = before ++ behind ∧ before.byteLen = start := by
  have boundary : text.isBoundary start = true := by
    rw [slice?, Option.ite_none_right_eq_some, Bool.and_eq_true, Bool.and_eq_true] at found
    exact found.1.1.2
  rcases isBoundary_iff.mp boundary with ⟨before, rest, rfl, length⟩
  have cut := slice?_cut before rest []
  rw [List.append_nil, length, found, Option.some.injEq] at cut
  exact ⟨before, by rw [cut], length⟩

/-- Of two cuts of one text, the one at the smaller offset comes first. -/
theorem cut_of_byteLen_le {first second third fourth : Text}
    (same : first ++ second = third ++ fourth) (ordered : first.byteLen ≤ third.byteLen) :
    ∃ between, third = first ++ between ∧ second = between ++ fourth := by
  rcases List.append_eq_append_iff.mp same with
    ⟨between, thirdEq, secondEq⟩ | ⟨between, firstEq, fourthEq⟩
  · exact ⟨between, thirdEq, secondEq⟩
  · have nothing : between = [] := by
      rw [firstEq, byteLen_append] at ordered
      exact byteLen_eq_zero_iff.mp (by omega)
    subst nothing
    exact ⟨[], by simpa using firstEq.symm, by simpa using fourthEq.symm⟩

/-- An offset inside a text lies in one of its characters. -/
theorem exists_cut_of_lt_byteLen {text : Text} {offset : Nat}
    (inside : offset < text.byteLen) :
    ∃ before : Text, ∃ c behind, text = before ++ c :: behind ∧ before.byteLen ≤ offset ∧
      offset < before.byteLen + c.utf8Size := by
  induction text generalizing offset with
  | nil => exact absurd inside (Nat.not_lt_zero _)
  | cons c rest ih =>
      rcases Nat.lt_or_ge offset c.utf8Size with isFirst | isLater
      · exact ⟨[], c, rest, rfl, Nat.zero_le _, by simpa using isFirst⟩
      · have insideRest : offset - c.utf8Size < byteLen rest := by
          rw [byteLen_cons] at inside
          omega
        rcases ih insideRest with ⟨before, d, behind, rfl, starts, ends⟩
        refine ⟨c :: before, d, behind, rfl, ?_, ?_⟩ <;> rw [byteLen_cons] <;> omega

/-- A text is cut at an offset in one way only. -/
theorem cut_eq_of_byteLen_eq {first second third fourth : Text}
    (same : first ++ second = third ++ fourth) (sameLength : first.byteLen = third.byteLen) :
    first = third ∧ second = fourth := by
  rcases cut_of_byteLen_le same (Nat.le_of_eq sameLength) with ⟨between, rfl, rfl⟩
  have noBytes : between.byteLen = 0 := by
    rw [byteLen_append] at sameLength
    omega
  simp [byteLen_eq_zero_iff.mp noBytes]

/-- Characters that fail a test are cut from those that pass it at one place only. -/
theorem cut_inj {test : Char → Bool} {front back front' back' : Text}
    (same : front ++ back = front' ++ back') (fail : ∀ c ∈ front, test c = false)
    (fail' : ∀ c ∈ front', test c = false) (passes : ∀ c ∈ back.head?, test c = true)
    (passes' : ∀ c ∈ back'.head?, test c = true) : front = front' ∧ back = back' := by
  rcases List.append_eq_append_iff.mp same with
    ⟨between, rfl, rfl⟩ | ⟨between, rfl, rfl⟩
  · cases between with
    | nil => simp
    | cons c rest =>
        have failing := fail' c (by simp)
        rw [passes c rfl] at failing
        exact Bool.noConfusion failing
  · cases between with
    | nil => simp
    | cons c rest =>
        have failing := fail c (by simp)
        rw [passes' c rfl] at failing
        exact Bool.noConfusion failing

/-- The longest run of characters that pass a test is cut off at one place only. -/
theorem run_inj {test : Char → Bool} {front back front' back' : Text}
    (same : front ++ back = front' ++ back') (pass : ∀ c ∈ front, test c = true)
    (pass' : ∀ c ∈ front', test c = true) (stops : ∀ c ∈ back.head?, test c = false)
    (stops' : ∀ c ∈ back'.head?, test c = false) : front = front' ∧ back = back' := by
  let isOther (c : Char) : Bool := !test c
  have fail : ∀ c ∈ front, isOther c = false := by simpa [isOther] using pass
  have fail' : ∀ c ∈ front', isOther c = false := by simpa [isOther] using pass'
  have others : ∀ c ∈ back.head?, isOther c = true := by simpa [isOther] using stops
  have others' : ∀ c ∈ back'.head?, isOther c = true := by simpa [isOther] using stops'
  exact cut_inj same fail fail' others others'

section Trim

variable {test : Char → Bool} {text : Text}

theorem dropWhile_of_forall_not (fail : ∀ c ∈ text, test c = false) :
    text.dropWhile test = text := by
  cases text with
  | nil => rfl
  | cons c rest => exact List.dropWhile_cons_of_neg (by simp [fail c List.mem_cons_self])

theorem dropEndWhile_of_forall_not (fail : ∀ c ∈ text, test c = false) :
    dropEndWhile test text = text := by
  rw [dropEndWhile, dropWhile_of_forall_not (by simpa using fail), List.reverse_reverse]

/-- Without such characters there is nothing to trim. -/
theorem trim_of_forall_not (fail : ∀ c ∈ text, test c = false) : trim test text = text := by
  rw [trim, dropWhile_of_forall_not fail, dropEndWhile_of_forall_not fail]

end Trim

end Text

/-- Whether a range covers some characters of a text: the text can be cut at both its ends. -/
def ByteRange.IsPart (range : ByteRange) (text : Text) : Prop :=
  ∃ before middle behind, text = before ++ middle ++ behind ∧
    range = ⟨before.byteLen, (before ++ middle).byteLen⟩

/-- Two cuts of a text are the ends of a part of it, which is empty if the second cut comes before
the first. -/
theorem ByteRange.isPart_of_cuts {text first second third fourth : Text}
    (firstCut : text = first ++ second) (secondCut : text = third ++ fourth) :
    ByteRange.IsPart ⟨first.byteLen, max first.byteLen third.byteLen⟩ text := by
  rcases Nat.le_total first.byteLen third.byteLen with ordered | reversed
  · rcases Text.cut_of_byteLen_le (firstCut.symm.trans secondCut) ordered with ⟨middle, rfl, rfl⟩
    exact ⟨first, middle, fourth, by simp [firstCut], by rw [Nat.max_eq_right ordered]⟩
  · refine ⟨first, [], second, by simp [firstCut], ?_⟩
    rw [Nat.max_eq_left reversed, List.append_nil]

end BatchLens
