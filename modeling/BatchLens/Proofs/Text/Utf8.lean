import BatchLens.Text.Utf8

/-!
# Reading and writing UTF-8

The bytes that spell a text are exactly those that are written for it (`ofUtf8?_eq_some_iff`), so
that a comparison of bytes is one of texts.

Both directions go through the sequences of bytes that stand for a character (`Sequence`). Each byte
carries a payload besides its mark, and the payloads make up the code of the character, of which
no shorter sequence would be capable. A character is written as its one sequence
(`Sequence.eq_utf8EncodeChar`), and every sequence is read as its character
(`Sequence.ofUtf8?_append`).
-/

namespace BatchLens.Text

variable {c : Char} {text : Text} {bytes sequence : List UInt8} {byte : UInt8}
  {least code payload : Nat}

/-! ## Payloads -/

theorem toNat_byte (isByte : payload < 0x100) : (UInt8.ofNat payload).toNat = payload :=
  UInt8.toNat_ofNat_of_lt' isByte

theorem ofNat_marked {mark : Nat} (isMarked : mark ≤ byte.toNat) :
    UInt8.ofNat (byte.toNat - mark + mark) = byte := by
  rw [Nat.sub_add_cancel isMarked, UInt8.ofNat_toNat]

theorem continuation?_eq_some_iff :
    continuation? byte = some payload ↔ payload < 0x40 ∧ byte = UInt8.ofNat (payload + 0x80) := by
  have isSmall := byte.toNat_lt
  simp only [continuation?, Bool.and_eq_true, decide_eq_true_eq, UInt8.le_iff_toNat_le,
    UInt8.lt_iff_toNat_lt, Option.ite_none_right_eq_some, Option.some.injEq, ← UInt8.toNat_inj,
    UInt8.toNat_ofNat', UInt8.reduceToNat]
  omega

theorem continuation?_ofNat (isSmall : payload < 0x40) :
    continuation? (UInt8.ofNat (payload + 0x80)) = some payload :=
  continuation?_eq_some_iff.mpr ⟨isSmall, rfl⟩

theorem isValidChar_iff :
    code.isValidChar ↔ code < 0x110000 ∧ ¬(0xD800 ≤ code ∧ code ≤ 0xDFFF) := by
  rw [Nat.isValidChar]
  omega

theorem toNat_ofNat (isValid : code.isValidChar) : (Char.ofNat code).toNat = code := by
  rw [Char.ofNat, dif_pos isValid]
  rfl

theorem charOf?_eq_some_iff : charOf? least code = some c ↔ least ≤ code ∧ c.toNat = code := by
  simp only [charOf?, Bool.and_eq_true, Bool.not_eq_true', ← Bool.not_eq_true, decide_eq_true_eq,
    Option.ite_none_right_eq_some, Option.some.injEq, and_assoc, ← isValidChar_iff]
  constructor
  · rintro ⟨isLong, isValid, rfl⟩
    exact ⟨isLong, toNat_ofNat isValid⟩
  · rintro ⟨isLong, rfl⟩
    exact ⟨isLong, c.valid, Char.ofNat_toNat c⟩

/-! ## Sequences -/

/-- Which bytes stand for a character: its code in one byte, or in the payloads of up to four bytes
if that takes as many. -/
inductive Sequence (c : Char) : List UInt8 → Prop
  | one (isSmall : c.toNat < 0x80) : Sequence c [UInt8.ofNat c.toNat]
  | two (lead second : Nat) (isLead : lead < 0x20) (isSecond : second < 0x40)
      (code : c.toNat = lead * 0x40 + second) (isLong : 0x80 ≤ c.toNat) :
      Sequence c [UInt8.ofNat (lead + 0xC0), UInt8.ofNat (second + 0x80)]
  | three (lead second third : Nat) (isLead : lead < 0x10) (isSecond : second < 0x40)
      (isThird : third < 0x40) (code : c.toNat = (lead * 0x40 + second) * 0x40 + third)
      (isLong : 0x800 ≤ c.toNat) :
      Sequence c
        [UInt8.ofNat (lead + 0xE0), UInt8.ofNat (second + 0x80), UInt8.ofNat (third + 0x80)]
  | four (lead second third fourth : Nat) (isLead : lead < 0x08) (isSecond : second < 0x40)
      (isThird : third < 0x40) (isFourth : fourth < 0x40)
      (code : c.toNat = ((lead * 0x40 + second) * 0x40 + third) * 0x40 + fourth)
      (isLong : 0x10000 ≤ c.toNat) :
      Sequence c
        [UInt8.ofNat (lead + 0xF0), UInt8.ofNat (second + 0x80), UInt8.ofNat (third + 0x80),
          UInt8.ofNat (fourth + 0x80)]

theorem sequence_utf8EncodeChar (c : Char) : Sequence c (String.utf8EncodeChar c) := by
  have isUnicode : c.toNat < 0x110000 := (isValidChar_iff.mp c.valid).1
  simp only [String.utf8EncodeChar, Char.toNat_val]
  split
  next => exact .one (by omega)
  next =>
    split
    next => exact .two _ _ (by omega) (by omega) (by omega) (by omega)
    next =>
      split
      next => exact .three _ _ _ (by omega) (by omega) (by omega) (by omega) (by omega)
      next =>
        exact .four _ _ _ _ (by omega) (by omega) (by omega) (by omega) (by omega) (by omega)

/-- The code of a character determines how many payloads there are, and each of them. -/
theorem Sequence.eq_utf8EncodeChar (isSequence : Sequence c sequence) :
    sequence = String.utf8EncodeChar c := by
  simp only [String.utf8EncodeChar, Char.toNat_val]
  cases isSequence with
  | one isSmall => rw [if_pos (by omega)]
  | two lead second isLead isSecond code isLong =>
      have leadOf : c.toNat / 64 % 32 = lead := by omega
      have secondOf : c.toNat % 64 = second := by omega
      rw [if_neg (by omega), if_pos (by omega), leadOf, secondOf]
  | three lead second third isLead isSecond isThird code isLong =>
      have leadOf : c.toNat / 4096 % 16 = lead := by omega
      have secondOf : c.toNat / 64 % 64 = second := by omega
      have thirdOf : c.toNat % 64 = third := by omega
      rw [if_neg (by omega), if_neg (by omega), if_pos (by omega), leadOf, secondOf, thirdOf]
  | four lead second third fourth isLead isSecond isThird isFourth code isLong =>
      have leadOf : c.toNat / 262144 % 8 = lead := by omega
      have secondOf : c.toNat / 4096 % 64 = second := by omega
      have thirdOf : c.toNat / 64 % 64 = third := by omega
      have fourthOf : c.toNat % 64 = fourth := by omega
      rw [if_neg (by omega), if_neg (by omega), if_neg (by omega), leadOf, secondOf, thirdOf,
        fourthOf]

/-- The first byte tells the length of a sequence, and its payloads are put together again. -/
theorem Sequence.ofUtf8?_append (isSequence : Sequence c sequence) (bytes : List UInt8) :
    ofUtf8? (sequence ++ bytes) = (ofUtf8? bytes).map (c :: ·) := by
  cases isSequence with
  | one isSmall =>
      have toNat : (UInt8.ofNat c.toNat).toNat = c.toNat := toNat_byte (by omega)
      rw [List.singleton_append, ofUtf8?.eq_def]
      simp only [toNat, if_pos isSmall, Char.ofNat_toNat, Option.map_eq_bind]
      rfl
  | two lead second isLead isSecond code isLong =>
      have toNat : (UInt8.ofNat (lead + 0xC0)).toNat = lead + 0xC0 :=
        toNat_byte (by omega)
      have isChar := charOf?_eq_some_iff.mpr ⟨code ▸ isLong, code⟩
      rw [List.cons_append, ofUtf8?.eq_def]
      simp only [toNat]
      rw [if_neg (by omega), if_pos (by simp; omega)]
      simp only [List.cons_append, List.nil_append, continuation?_ofNat isSecond,
        Nat.add_sub_cancel, Option.bind_eq_bind, Option.bind_some, isChar, Option.map_eq_bind]
      rfl
  | three lead second third isLead isSecond isThird code isLong =>
      have toNat : (UInt8.ofNat (lead + 0xE0)).toNat = lead + 0xE0 :=
        toNat_byte (by omega)
      have isChar := charOf?_eq_some_iff.mpr ⟨code ▸ isLong, code⟩
      rw [List.cons_append, ofUtf8?.eq_def]
      simp only [toNat]
      rw [if_neg (by omega), if_neg (by simp), if_pos (by simp; omega)]
      simp only [List.cons_append, List.nil_append, continuation?_ofNat isSecond,
        continuation?_ofNat isThird,
        Nat.add_sub_cancel, Option.bind_eq_bind, Option.bind_some, isChar, Option.map_eq_bind]
      rfl
  | four lead second third fourth isLead isSecond isThird isFourth code isLong =>
      have toNat : (UInt8.ofNat (lead + 0xF0)).toNat = lead + 0xF0 :=
        toNat_byte (by omega)
      have isChar := charOf?_eq_some_iff.mpr ⟨code ▸ isLong, code⟩
      rw [List.cons_append, ofUtf8?.eq_def]
      simp only [toNat]
      rw [if_neg (by omega), if_neg (by simp), if_neg (by simp), if_pos (by simp; omega)]
      simp only [List.cons_append, List.nil_append, continuation?_ofNat isSecond,
        continuation?_ofNat isThird, continuation?_ofNat isFourth,
        Nat.add_sub_cancel, Option.bind_eq_bind, Option.bind_some, isChar, Option.map_eq_bind]
      rfl

/-! ## Reading and writing -/

theorem toUtf8_cons (c : Char) (text : Text) :
    toUtf8 (c :: text) = String.utf8EncodeChar c ++ toUtf8 text :=
  List.flatMap_cons

theorem ofUtf8?_toUtf8 (text : Text) : ofUtf8? text.toUtf8 = some text := by
  induction text with
  | nil => rfl
  | cons c rest ih =>
      rw [toUtf8_cons, (sequence_utf8EncodeChar c).ofUtf8?_append, ih, Option.map_some]

theorem Sequence.append_eq (isSequence : Sequence c sequence) (isRest : bytes = text.toUtf8) :
    sequence ++ bytes = toUtf8 (c :: text) := by
  rw [toUtf8_cons, isSequence.eq_utf8EncodeChar, isRest]

/-- Whatever length the first byte tells, only a sequence of the character is read as it. -/
theorem eq_toUtf8_of_ofUtf8? (read : ofUtf8? bytes = some text) : bytes = text.toUtf8 := by
  fun_induction ofUtf8? bytes generalizing text with
  | case1 =>
      cases read
      rfl
  | case2 first rest lead isOne =>
      rename_i ih
      simp only [Option.bind_eq_bind, Option.bind_eq_some_iff, Option.some.injEq] at read
      rcases read with ⟨others, readOthers, rfl⟩
      have isValid : lead.isValidChar := isValidChar_iff.mpr (by omega)
      have code : (Char.ofNat first.toNat).toNat = first.toNat := toNat_ofNat isValid
      have isSequence : Sequence (Char.ofNat first.toNat) _ := .one (by omega)
      rw [code, UInt8.ofNat_toNat] at isSequence
      exact isSequence.append_eq (ih readOthers)
  | case3 first lead notOne isTwo second rest =>
      rename_i ih
      simp only [Option.bind_eq_bind, Option.bind_eq_some_iff, Option.some.injEq] at read
      rcases read with ⟨second, readSecond, c, readChar, others, readOthers, rfl⟩
      rcases continuation?_eq_some_iff.mp readSecond with ⟨isSecond, rfl⟩
      rcases charOf?_eq_some_iff.mp readChar with ⟨isLong, code⟩
      simp only [Bool.and_eq_true, decide_eq_true_eq] at isTwo
      have isSequence := Sequence.two _ _ (by omega) isSecond code (by omega)
      rw [ofNat_marked isTwo.1] at isSequence
      exact isSequence.append_eq (ih readOthers)
  | case5 first lead notOne notTwo isThree second third rest =>
      rename_i ih
      simp only [Option.bind_eq_bind, Option.bind_eq_some_iff, Option.some.injEq] at read
      rcases read with ⟨second, readSecond, third, readThird, c, readChar, others, readOthers, rfl⟩
      rcases continuation?_eq_some_iff.mp readSecond with ⟨isSecond, rfl⟩
      rcases continuation?_eq_some_iff.mp readThird with ⟨isThird, rfl⟩
      rcases charOf?_eq_some_iff.mp readChar with ⟨isLong, code⟩
      simp only [Bool.and_eq_true, decide_eq_true_eq] at isThree
      have isSequence := Sequence.three _ _ _ (by omega) isSecond isThird code (by omega)
      rw [ofNat_marked isThree.1] at isSequence
      exact isSequence.append_eq (ih readOthers)
  | case7 first lead notOne notTwo notThree isFour second third fourth rest =>
      rename_i ih
      simp only [Option.bind_eq_bind, Option.bind_eq_some_iff, Option.some.injEq] at read
      rcases read with ⟨second, readSecond, third, readThird, fourth, readFourth, c, readChar,
        others, readOthers, rfl⟩
      rcases continuation?_eq_some_iff.mp readSecond with ⟨isSecond, rfl⟩
      rcases continuation?_eq_some_iff.mp readThird with ⟨isThird, rfl⟩
      rcases continuation?_eq_some_iff.mp readFourth with ⟨isFourth, rfl⟩
      rcases charOf?_eq_some_iff.mp readChar with ⟨isLong, code⟩
      simp only [Bool.and_eq_true, decide_eq_true_eq] at isFour
      have isSequence := Sequence.four _ _ _ _ (by omega) isSecond isThird isFourth code (by omega)
      rw [ofNat_marked isFour.1] at isSequence
      exact isSequence.append_eq (ih readOthers)
  | case4 | case6 | case8 | case9 => exact absurd read (by simp)

theorem ofUtf8?_eq_some_iff : ofUtf8? bytes = some text ↔ bytes = text.toUtf8 := by
  constructor
  · exact eq_toUtf8_of_ofUtf8?
  · rintro rfl
    exact ofUtf8?_toUtf8 text

end BatchLens.Text
