import Mathlib.Data.Bool.AllAny
import Mathlib.Data.List.DropRight
import BatchLens.Proofs.Json.Grammar
import BatchLens.Proofs.Text.Runs
import BatchLens.Proofs.Text.Utf8
import BatchLens.Proofs.Unicode.Letters

/-!
# Reading what is spelled

Every text that spells a value by the grammar of JSON is read as that value
(`parse?_of_spells`). The reader counts its calls, and each call takes something off the text or is
followed by one that does, so that as many calls as the text has characters are enough. The
induction is on the grammar, for texts with anything behind them that can follow a value
(`Spells.reads`).
-/

namespace BatchLens.Json

open Reader

/-! ## Strings -/

theorem hexValue?_of_toLower {c : Char} {value : Nat} (small : value < 16)
    (isDigit : c.toLower = Text.hexDigit value) : Text.hexValue? c = some value := by
  rcases Unicode.toLower_eq_self_or_mem c with same | isCapital
  · rw [← same, isDigit]
    exact Text.hexValue?_hexDigit value small
  · have areDigits : ∀ c ∈ Unicode.capitals, ∀ value < 16, c.toLower = Text.hexDigit value →
        Text.hexValue? c = some value :=
      List.all_iff_forall_prop.mp (by decide)
    exact areDigits c isCapital value small isDigit

theorem fourHex?_of_spellsUnit {code : Nat} {digits : Text} (spells : SpellsUnit code digits) :
    ∃ a b c d, digits = [a, b, c, d] ∧ fourHex? a b c d = some code := by
  rcases spells with ⟨small, areDigits⟩
  rcases digits with - | ⟨a, - | ⟨b, - | ⟨c, - | ⟨d, - | ⟨e, others⟩⟩⟩⟩⟩ <;>
    simp only [List.map_cons, List.map_nil, List.cons.injEq, reduceCtorEq, and_false,
      and_true] at areDigits
  rcases areDigits with ⟨first, second, third, fourth⟩
  refine ⟨a, b, c, d, rfl, ?_⟩
  rw [fourHex?, hexValue?_of_toLower (by omega) first, hexValue?_of_toLower (by omega) second,
    hexValue?_of_toLower (by omega) third, hexValue?_of_toLower (by omega) fourth]
  have parts : ((code / 0x1000 * 16 + code / 0x100 % 16) * 16 + code / 0x10 % 16) * 16 +
      code % 16 = code := by
    omega
  simp [parts]

theorem unescape?_of_mem_escapes {letter c : Char} (isEscape : (letter, c) ∈ escapes) :
    letter ≠ 'u' ∧ unescape? letter = some c := by
  have areEscapes : ∀ entry ∈ escapes, entry.1 ≠ 'u' ∧ unescape? entry.1 = some entry.2 := by decide
  exact areEscapes _ isEscape

/-- The pieces of a string are read up to the closing quote. -/
theorem SpellsPieces.pieces_eq {found : List Piece} {written : Text}
    (spells : SpellsPieces found written) (rest : Text) :
    pieces (written ++ '"' :: rest) = some (found, rest) := by
  induction spells with
  | nil => rfl
  | @plain found written c notControl notQuote notBackslash others ih =>
      simp [pieces, ih, notBackslash, notControl]
  | @escaped found written letter c isEscape others ih =>
      rcases unescape?_of_mem_escapes isEscape with ⟨notUnit, meaning⟩
      simp [pieces, notUnit, meaning, ih]
  | unit spells others ih =>
      rcases fourHex?_of_spellsUnit spells with ⟨a, b, c, d, rfl, isCode⟩
      simp [pieces, isCode, ih]

theorem spelled?_unit_cons {code : Nat} {others : List Piece}
    (notHalf : isHighHalf code = false ∧ isLowHalf code = false) :
    spelled? (.unit code :: others) = (spelled? others).map (Char.ofNat code :: ·) := by
  rcases others with - | ⟨_ | _, _⟩ <;> simp [spelled?, notHalf]

/-- No character is half a surrogate pair. -/
theorem isHalf_toNat (c : Char) : isHighHalf c.toNat = false ∧ isLowHalf c.toNat = false := by
  have valid : c.toNat < 0xD800 ∨ 0xDFFF < c.toNat ∧ c.toNat < 0x110000 := c.valid
  simp only [isHighHalf, isLowHalf, Bool.and_eq_false_iff, decide_eq_false_iff_not]
  omega

theorem Means.spelled?_eq {found : List Piece} {text : Text} (means : Means found text) :
    spelled? found = some text := by
  induction means with
  | nil => rfl
  | char others ih => simp [spelled?, ih]
  | @unit found text c others ih => simp [spelled?_unit_cons (isHalf_toNat c), ih]
  | @pair found text c high low isHigh isLow isPair others ih =>
      have bothHalves : isHighHalf high = true ∧ isLowHalf low = true := by
        simpa [isHighHalf, isLowHalf] using ⟨isHigh, isLow⟩
      simp [spelled?, bothHalves, ih, ← isPair]

theorem Means.unit_ofNat {code : Nat} {others : List Piece} {text : Text} (small : code < 0x10000)
    (notHigh : ¬isHighHalf code = true) (notLow : ¬isLowHalf code = true)
    (means : Means others text) : Means (.unit code :: others) (Char.ofNat code :: text) := by
  have isValid : code.isValidChar := by
    simp only [isHighHalf, isLowHalf, Bool.and_eq_true, decide_eq_true_eq] at notHigh notLow
    rw [Nat.isValidChar]
    omega
  have isCode : (Char.ofNat code).toNat = code := Text.toNat_ofNat isValid
  have isUnit := Means.unit means (c := Char.ofNat code)
  rwa [isCode] at isUnit

/-- Pieces with code units of sixteen bits stand for the text that they are read as. -/
theorem means_of_spelled? {found : List Piece} {text : Text} (spelled : spelled? found = some text)
    (areUnits : ∀ code, .unit code ∈ found → code < 0x10000) : Means found text := by
  fun_induction spelled? found generalizing text with
  | case1 =>
      rw [← Option.some.inj spelled]
      exact .nil
  | case2 others c ih =>
      rcases Option.map_eq_some_iff.mp spelled with ⟨more, isMore, rfl⟩
      exact .char (ih isMore fun code isIn => areUnits code (List.mem_cons_of_mem _ isIn))
  | case3 others high low isHigh isLow ih =>
      rcases Option.map_eq_some_iff.mp spelled with ⟨more, isMore, rfl⟩
      have means := ih isMore fun code isIn => areUnits code (by simp [isIn])
      simp only [isHighHalf, isLowHalf, Bool.and_eq_true, decide_eq_true_eq] at isHigh isLow
      refine .pair isHigh isLow (Text.toNat_ofNat ?_) means
      rw [Nat.isValidChar]
      omega
  | case4 => exact absurd spelled (by simp)
  | case5 => exact absurd spelled (by simp)
  | case6 code next others notHigh notLow ih =>
      rcases Option.map_eq_some_iff.mp spelled with ⟨more, isMore, rfl⟩
      have means := ih isMore fun code isIn => areUnits code (List.mem_cons_of_mem _ isIn)
      exact .unit_ofNat (areUnits code List.mem_cons_self) notHigh notLow means
  | case7 => exact absurd spelled (by simp)
  | case8 code others _ notHalf ih =>
      rcases Option.map_eq_some_iff.mp spelled with ⟨more, isMore, rfl⟩
      have means := ih isMore fun code isIn => areUnits code (List.mem_cons_of_mem _ isIn)
      rw [Bool.or_eq_true, not_or] at notHalf
      exact .unit_ofNat (areUnits code List.mem_cons_self) notHalf.1 notHalf.2 means

theorem SpellsPieces.lt_of_mem {found : List Piece} {written : Text}
    (spells : SpellsPieces found written) {code : Nat} (isIn : .unit code ∈ found) :
    code < 0x10000 := by
  induction spells with
  | nil => exact absurd isIn List.not_mem_nil
  | plain _ _ _ _ ih => exact ih (by simpa using isIn)
  | escaped _ _ ih => exact ih (by simpa using isIn)
  | unit spells _ ih =>
      rcases List.mem_cons.mp isIn with same | isIn
      · obtain rfl := Piece.unit.inj same
        exact spells.1
      · exact ih isIn

theorem SpellsString.string?_eq {value : Option Text} {written : Text}
    (spells : SpellsString value written) (rest : Text) :
    Reader.string? (written ++ '"' :: rest) = some (value, rest) := by
  rcases spells with ⟨found, written, means⟩
  have areUnits : ∀ code, .unit code ∈ found → code < 0x10000 := fun _ => written.lt_of_mem
  have isValue : spelled? found = value := by
    apply Option.ext
    intro text
    rw [means]
    exact ⟨fun spelled => means_of_spelled? spelled areUnits, Means.spelled?_eq⟩
  rw [Reader.string?, written.pieces_eq, Option.map_some, ← isValue]

/-! ## Numbers -/

/-- What can stand behind a value. -/
def follow : List Char := blanks ++ [',', ']', '}']

/-- Whether a text can stand behind a value. -/
def EndsValue (rest : Text) : Prop := ∀ c ∈ rest.head?, c ∈ follow

variable {rest : Text}

theorem IsDigits.digits?_eq {digits : Text} (isDigits : IsDigits digits)
    (ends : ∀ c ∈ rest.head?, c.isDigit = false) :
    digits? (digits ++ rest) = some (digits, rest) := by
  rcases Text.takeWhile_run isDigits.2 ends with ⟨run, behind⟩
  rcases List.exists_cons_of_ne_nil isDigits.1 with ⟨first, others, cut⟩
  rw [digits?, run, behind, cut]

namespace Numeral

variable {numeral : Numeral}

theorem IsWritten.head_exponent (isWritten : numeral.IsWritten) (ends : EndsValue rest) :
    ∀ c ∈ (numeral.exponent ++ rest).head?, c ∈ 'e' :: 'E' :: follow := by
  intro c isHead
  rcases isWritten.isExponent with none | ⟨letter, sign, digits, isLetter, _, _, exponent⟩
  · rw [none] at isHead
    exact List.mem_cons_of_mem _ (List.mem_cons_of_mem _ (ends c isHead))
  · obtain rfl : letter = c := by simpa [exponent] using isHead
    rcases isLetter with rfl | rfl <;> decide

theorem IsWritten.head_fraction (isWritten : numeral.IsWritten) (ends : EndsValue rest) :
    ∀ c ∈ (numeral.fraction ++ (numeral.exponent ++ rest)).head?,
      c ∈ '.' :: 'e' :: 'E' :: follow := by
  intro c isHead
  rcases isWritten.isFraction with none | ⟨digits, _, fraction⟩
  · rw [none] at isHead
    exact List.mem_cons_of_mem _ (isWritten.head_exponent ends c isHead)
  · obtain rfl : '.' = c := by simpa [fraction] using isHead
    decide

theorem IsWritten.fraction?_eq (isWritten : numeral.IsWritten) (ends : EndsValue rest) :
    fraction? (numeral.fraction ++ (numeral.exponent ++ rest)) =
      some (numeral.fraction, numeral.exponent ++ rest) := by
  have isHead := isWritten.head_exponent ends
  rcases isWritten.isFraction with none | ⟨digits, isDigits, fraction⟩
  · rw [none, List.nil_append]
    cases behind : numeral.exponent ++ rest with
    | nil => rfl
    | cons c others =>
        have notPoint : c ≠ '.' := by
          rintro rfl
          exact absurd (isHead '.' (by rw [behind]; rfl)) (by decide)
        simp [fraction?, notPoint]
  · have noDigit : ∀ c ∈ (numeral.exponent ++ rest).head?, c.isDigit = false := by
      have areEnds : ∀ c ∈ 'e' :: 'E' :: follow, c.isDigit = false :=
        List.all_iff_forall_prop.mp (by decide)
      exact fun c isIn => areEnds c (isHead c isIn)
    rw [fraction, List.cons_append, fraction?, isDigits.digits?_eq noDigit]
    rfl

theorem IsWritten.exponent?_eq (isWritten : numeral.IsWritten) (ends : EndsValue rest) :
    exponent? (numeral.exponent ++ rest) = some (numeral.exponent, rest) := by
  rcases isWritten.isExponent with
    none | ⟨letter, sign, digits, isLetter, isSign, isDigits, exponent⟩
  · rw [none, List.nil_append]
    cases rest with
    | nil => rfl
    | cons c others =>
        have areEnds : ∀ c ∈ follow, c ≠ 'e' ∧ c ≠ 'E' :=
          List.all_iff_forall_prop.mp (by decide)
        simp [exponent?, areEnds c (ends c rfl)]
  · have noDigit : ∀ c ∈ rest.head?, c.isDigit = false := by
      have areEnds : ∀ c ∈ follow, c.isDigit = false :=
        List.all_iff_forall_prop.mp (by decide)
      exact fun c isIn => areEnds c (ends c isIn)
    have isMark : (letter == 'e' || letter == 'E') = true := by simpa using isLetter
    have read := isDigits.digits?_eq noDigit
    rw [exponent]
    rcases isSign with rfl | rfl | rfl
    · rcases List.exists_cons_of_ne_nil isDigits.1 with ⟨first, others, rfl⟩
      have notSign : ¬(first = '+' ∨ first = '-') := by
        have isDigit := isDigits.2 first List.mem_cons_self
        rintro (rfl | rfl) <;>
          exact absurd isDigit (by decide)
      rw [List.cons_append] at read
      simp [exponent?, isLetter, notSign, read]
    · simp [exponent?, isLetter, read]
    · simp [exponent?, isLetter, read]

theorem IsWritten.unsigned?_eq (isWritten : numeral.IsWritten) (ends : EndsValue rest) :
    unsigned? numeral.sign (numeral.whole ++ (numeral.fraction ++ (numeral.exponent ++ rest))) =
      some (numeral.value, rest) := by
  have noDigit : ∀ c ∈ (numeral.fraction ++ (numeral.exponent ++ rest)).head?,
      c.isDigit = false := by
    have areEnds : ∀ c ∈ '.' :: 'e' :: 'E' :: follow, c.isDigit = false :=
      List.all_iff_forall_prop.mp (by decide)
    exact fun c isIn => areEnds c (isWritten.head_fraction ends c isIn)
  have noZero : numeral.whole.head? = some '0' → numeral.whole.length ≤ 1 := by
    intro zero
    rw [isWritten.noLeadingZero zero]
    rfl
  have isWhole : (if numeral.sign = [] then (digitsValue numeral.whole : Int)
      else -(digitsValue numeral.whole : Int)) = numeral.wholeValue := rfl
  have isValue : (if numeral.IsInteger then some (integer numeral.wholeValue, rest)
      else some (decimal numeral.text, rest)) = some (numeral.value, rest) := by
    rw [Numeral.value]
    split <;> rfl
  rw [unsigned?, isWritten.isWhole.digits?_eq noDigit]
  simpa [isWritten.fraction?_eq ends, isWritten.exponent?_eq ends, isWhole, isInRange, IsInteger,
    Numeral.text, and_assoc] using And.intro noZero isValue

theorem IsWritten.number?_eq (isWritten : numeral.IsWritten) (ends : EndsValue rest) :
    number? (numeral.text ++ rest) = some (numeral.value, rest) := by
  have read := isWritten.unsigned?_eq ends
  rcases List.exists_cons_of_ne_nil isWritten.isWhole.1 with ⟨first, others, whole⟩
  have notSign : first ≠ '-' := by
    have isDigit := isWritten.isWhole.2 first (by simp [whole])
    rintro rfl
    exact absurd isDigit (by decide)
  rcases isWritten.isSign with sign | sign
  · rw [sign, whole] at read
    simpa [Numeral.text, sign, whole, number?, notSign] using read
  · rw [sign] at read
    simpa [Numeral.text, sign, number?] using read

/-- A number begins with its sign or with a digit. -/
theorem IsWritten.exists_head (isWritten : numeral.IsWritten) :
    ∃ c more, numeral.text = c :: more ∧ (c = '-' ∨ c.isDigit = true) := by
  rcases List.exists_cons_of_ne_nil isWritten.isWhole.1 with ⟨first, others, whole⟩
  have isDigit := isWritten.isWhole.2 first (by simp [whole])
  rcases isWritten.isSign with sign | sign
  · exact ⟨first, _, by rw [Numeral.text, sign, whole]; rfl, .inr isDigit⟩
  · exact ⟨'-', _, by rw [Numeral.text, sign]; rfl, .inl rfl⟩

end Numeral

/-! ## Blanks -/

theorem isSpace_iff {c : Char} : isSpace c = true ↔ c ∈ blanks := by
  simp [isSpace, blanks, or_assoc]

theorem skipSpace_blank {c : Char} (isBlank : c ∈ blanks) (text : Text) :
    skipSpace (c :: text) = skipSpace text :=
  List.dropWhile_cons_of_pos (isSpace_iff.mpr isBlank)

theorem skipSpace_blanks {gap : Text} (areBlanks : ∀ c ∈ gap, c ∈ blanks) (text : Text) :
    skipSpace (gap ++ text) = skipSpace text :=
  List.dropWhile_append_of_pos fun c isIn => isSpace_iff.mpr (areBlanks c isIn)

theorem skipSpace_solid {c : Char} (solid : c ∉ blanks) (text : Text) :
    skipSpace (c :: text) = c :: text :=
  List.dropWhile_cons_of_neg (mt isSpace_iff.mp solid)

theorem skipSpace_skipSpace (text : Text) : skipSpace (skipSpace text) = skipSpace text :=
  List.dropWhile_idempotent isSpace text

/-! ## What each form is read by -/

/-- Whether a part of a text is read off what stands for it, with the rest left. -/
def Form.Reads (calls room : Nat) (text rest : Text) : Form → Prop
  | value json => value? calls room text = some (json, rest)
  | member key json =>
      ∃ behind, key? text = some (key, behind) ∧ value? calls room behind = some (json, rest)
  | items found => items? calls room text = some (found, rest)
  | moreItems found => moreItems? calls room text = some (found, rest)
  | members found => members? calls room text = some (found, rest)
  | moreMembers found => moreMembers? calls room text = some (found, rest)

section

variable {calls room : Nat} {text : Text} {form : Form}

/-- Every reader begins with the blanks at the front. -/
theorem value?_skipSpace : value? calls room (skipSpace text) = value? calls room text := by
  cases calls <;> simp only [value?, skipSpace_skipSpace]

theorem key?_skipSpace : key? (skipSpace text) = key? text := by
  simp only [key?, skipSpace_skipSpace]

theorem reads_blank {c : Char} (isBlank : c ∈ blanks) :
    form.Reads calls room (c :: text) rest ↔ form.Reads calls room text rest := by
  cases form <;> cases calls <;>
    simp only [Form.Reads, value?, key?, items?, moreItems?, members?, moreMembers?,
      skipSpace_blank isBlank]

/-- No sign of the grammar begins like a number. -/
theorem ne_of_starts {c : Char} (starts : c = '-' ∨ c.isDigit = true) :
    ∀ d ∈ '"' :: '[' :: '{' :: ']' :: '}' :: 'n' :: 't' :: 'f' :: blanks, c ≠ d := by
  have areOther : ∀ d ∈ '"' :: '[' :: '{' :: ']' :: '}' :: 'n' :: 't' :: 'f' :: blanks,
      d ≠ '-' ∧ d.isDigit = false :=
    List.all_iff_forall_prop.mp (by decide)
  rintro d isIn rfl
  rcases areOther c isIn with ⟨notSign, notDigit⟩
  rcases starts with isSign | isDigit
  · exact notSign isSign
  · rw [notDigit] at isDigit
    exact Bool.noConfusion isDigit

/-- A text that begins like a number is read as one. -/
theorem value?_number {c : Char} {more : Text} (starts : c = '-' ∨ c.isDigit = true) :
    value? (calls + 1) room (c :: more) = number? (c :: more) := by
  have isOther := ne_of_starts starts
  simp only [List.forall_mem_cons] at isOther
  rcases isOther with ⟨notQuote, notBracket, notBrace, _, _, notN, notT, notF, notBlank⟩
  have solid : c ∉ blanks := fun isBlank => notBlank c isBlank rfl
  simp [value?, skipSpace_solid solid, scalar?, notQuote, notBracket, notBrace, notN, notT, notF]

/-! ## Where a part of a text ends -/

theorem Spells.ne_nil (spells : Spells form text) : text ≠ [] := by
  induction spells with
  | number isWritten => simp [Numeral.text, isWritten.isWhole.1]
  | null | true | false => decide
  | firstItem _ _ ih | firstMember _ _ ih => simp [ih]
  | _ => simp

/-- Whether a form is one of those that are separated by commas. -/
def Form.IsElement : Form → Prop
  | value _ | member _ _ => True
  | _ => False

/-- What is separated by commas does not begin like the end of an array or object. -/
theorem Spells.not_closed (spells : Spells form text) (isElement : form.IsElement) (rest : Text) :
    ∃ c more, skipSpace (text ++ rest) = c :: more ∧ c ≠ ']' ∧ c ≠ '}' := by
  induction spells with
  | blank isBlank _ ih =>
      rw [List.cons_append, skipSpace_blank isBlank]
      exact ih isElement
  | number isWritten =>
      rcases isWritten.exists_head with ⟨c, more, text, starts⟩
      have isOther := ne_of_starts starts
      have solid : c ∉ blanks := fun isBlank => isOther c (by simp [isBlank]) rfl
      rw [text]
      exact ⟨c, _, skipSpace_solid solid _, isOther _ (by simp), isOther _ (by simp)⟩
  | null | true | false | string | array | object | member =>
      exact ⟨_, _, skipSpace_solid (by decide) _, by decide, by decide⟩
  | _ => exact absurd isElement id

/-- Whether a form stands behind an item or a member. -/
def Form.IsMore : Form → Prop
  | moreItems _ | moreMembers _ => True
  | _ => False

/-- Behind an item or a member comes what can stand behind a value. -/
theorem Spells.endsValue (spells : Spells form text) (isMore : form.IsMore) (rest : Text) :
    EndsValue (text ++ rest) := by
  intro c isHead
  cases spells with
  | blank isBlank _ =>
      obtain rfl := Option.some.inj isHead
      exact List.mem_append_left _ isBlank
  | lastItem | nextItem | lastMember | nextMember =>
      obtain rfl := Option.some.inj isHead
      decide
  | _ => exact absurd isMore id

/-! ## Reading is complete -/

theorem items?_cons {item : Json} {others : List Json} {behind : Text}
    (notClosed : ∃ c more, skipSpace text = c :: more ∧ c ≠ ']' ∧ c ≠ '}')
    (first : value? calls room text = some (item, behind))
    (more : moreItems? calls room behind = some (others, rest)) :
    items? (calls + 1) room text = some (item :: others, rest) := by
  rcases notClosed with ⟨c, after, head, notBracket, _⟩
  rw [items?]
  split
  next closed =>
    rw [head] at closed
    exact absurd (List.cons.inj closed).1 notBracket
  next => simp [value?_skipSpace, first, more]

theorem members?_cons {key : Option Text} {json : Json} {others : List (Option Text × Json)}
    {behind after : Text}
    (notClosed : ∃ c more, skipSpace text = c :: more ∧ c ≠ ']' ∧ c ≠ '}')
    (isKey : key? text = some (key, behind))
    (isValue : value? calls room behind = some (json, after))
    (more : moreMembers? calls room after = some (others, rest)) :
    members? (calls + 1) room text = some ((key, json) :: others, rest) := by
  rcases notClosed with ⟨c, _, head, _, notBrace⟩
  rw [members?]
  split
  next closed =>
    rw [head] at closed
    exact absurd (List.cons.inj closed).1 notBrace
  next => simp [key?_skipSpace, isKey, isValue, more]

/-- One call is made for the first character, and the others are enough for what follows. -/
theorem exists_fewer {c : Char} (enough : (c :: text).length ≤ calls) :
    ∃ fewer, calls = fewer + 1 ∧ text.length ≤ fewer := by
  rw [List.length_cons] at enough
  exact ⟨calls - 1, by omega, by omega⟩

theorem exists_fewer_of_append {behind : Text} (nonempty : text ≠ []) (behind_ne_nil : behind ≠ [])
    (enough : (text ++ behind).length ≤ calls) :
    ∃ fewer, calls = fewer + 1 ∧ text.length ≤ fewer ∧ behind.length ≤ fewer := by
  have positive := List.length_pos_of_ne_nil nonempty
  have behindPositive := List.length_pos_of_ne_nil behind_ne_nil
  rw [List.length_append] at enough
  exact ⟨calls - 1, by omega, by omega, by omega⟩

/-- What is spelled is read, with as many calls and as much room as it has characters. -/
theorem Spells.reads (spells : Spells form text) (enoughCalls : text.length ≤ calls)
    (enoughRoom : text.length ≤ room) (ends : EndsValue rest) :
    form.Reads calls room (text ++ rest) rest := by
  induction spells generalizing calls room rest with
  | blank isBlank behind ih =>
      rw [List.length_cons] at enoughCalls enoughRoom
      rw [List.cons_append, reads_blank isBlank]
      exact ih (by omega) (by omega) ends
  | null | true | false =>
      rcases exists_fewer enoughCalls with ⟨calls, rfl, _⟩
      simp [Form.Reads, value?, skipSpace, isSpace, scalar?]
  | number isWritten =>
      rcases isWritten.exists_head with ⟨c, more, text, starts⟩
      rw [text] at enoughCalls
      rcases exists_fewer enoughCalls with ⟨calls, rfl, _⟩
      have read := isWritten.number?_eq ends
      rw [text, List.cons_append] at read ⊢
      rwa [Form.Reads, value?_number starts]
  | @string value written spells =>
      rcases exists_fewer enoughCalls with ⟨calls, rfl, _⟩
      have read := spells.string?_eq rest
      simp [Form.Reads, value?, skipSpace, isSpace, read]
  | @array items body inside ih =>
      rcases exists_fewer enoughCalls with ⟨calls, rfl, callsForBody⟩
      rcases exists_fewer enoughRoom with ⟨room, rfl, roomForBody⟩
      have read : items? calls room (body ++ rest) = some (items, rest) :=
        ih callsForBody roomForBody ends
      simp [Form.Reads, value?, skipSpace, isSpace, read]
  | @object members body inside ih =>
      rcases exists_fewer enoughCalls with ⟨calls, rfl, callsForBody⟩
      rcases exists_fewer enoughRoom with ⟨room, rfl, roomForBody⟩
      have read : members? calls room (body ++ rest) = some (members, rest) :=
        ih callsForBody roomForBody ends
      simp [Form.Reads, value?, skipSpace, isSpace, read]
  | @member key json written gap text spells areBlanks value ih =>
      have read := spells.string?_eq (gap ++ ':' :: (text ++ rest))
      have fewer : text.length ≤ calls ∧ text.length ≤ room := by
        simp only [List.length_cons, List.length_append] at enoughCalls enoughRoom
        omega
      refine ⟨text ++ rest, ?_, ih fewer.1 fewer.2 ends⟩
      have isColon : skipSpace (gap ++ ':' :: (text ++ rest)) = ':' :: (text ++ rest) := by
        rw [skipSpace_blanks areBlanks, skipSpace_solid (by decide)]
      simp [key?, skipSpace_solid, blanks, read, isColon]
  | noItem | lastItem | noMember | lastMember =>
      rcases exists_fewer enoughCalls with ⟨calls, rfl, _⟩
      simp [Form.Reads, items?, moreItems?, members?, moreMembers?, skipSpace, isSpace]
  | @firstItem item others text behind value more ihValue ihMore =>
      rcases exists_fewer_of_append value.ne_nil more.ne_nil enoughCalls with
        ⟨calls, rfl, callsForValue, callsForMore⟩
      rw [List.length_append] at enoughRoom
      rw [List.append_assoc]
      exact items?_cons (value.not_closed trivial (behind ++ rest))
        (ihValue callsForValue (by omega) (more.endsValue trivial rest))
        (ihMore callsForMore (by omega) ends)
  | @nextItem item others text behind value more ihValue ihMore =>
      rcases exists_fewer enoughCalls with ⟨calls, rfl, callsForBoth⟩
      rw [List.length_append] at callsForBoth
      rw [List.length_cons, List.length_append] at enoughRoom
      have first : value? calls room (text ++ (behind ++ rest)) = some (item, behind ++ rest) :=
        ihValue (by omega) (by omega) (more.endsValue trivial rest)
      have later : moreItems? calls room (behind ++ rest) = some (others, rest) :=
        ihMore (by omega) (by omega) ends
      simp [Form.Reads, moreItems?, skipSpace, isSpace, first, later]
  | @firstMember key json others text behind member more ihMember ihMore =>
      rcases exists_fewer_of_append member.ne_nil more.ne_nil enoughCalls with
        ⟨calls, rfl, callsForMember, callsForMore⟩
      rw [List.length_append] at enoughRoom
      rcases ihMember callsForMember (by omega : text.length ≤ room) (more.endsValue trivial rest)
        with ⟨after, isKey, isValue⟩
      rw [List.append_assoc]
      exact members?_cons (member.not_closed trivial (behind ++ rest)) isKey isValue
        (ihMore callsForMore (by omega) ends)
  | @nextMember key json others text behind member more ihMember ihMore =>
      rcases exists_fewer enoughCalls with ⟨calls, rfl, callsForBoth⟩
      rw [List.length_append] at callsForBoth
      rw [List.length_cons, List.length_append] at enoughRoom
      rcases ihMember (by omega : text.length ≤ calls) (by omega : text.length ≤ room)
        (more.endsValue trivial rest) with ⟨after, isKey, isValue⟩
      have later : moreMembers? calls room (behind ++ rest) = some (others, rest) :=
        ihMore (by omega) (by omega) ends
      simp [Form.Reads, moreMembers?, skipSpace, isSpace, isKey, isValue, later]

end

/-- A text that spells a value, with blanks behind it, is read as that value. -/
theorem parse?_of_spells {json : Json} {text gap : Text} (spells : Spells (.value json) text)
    (areBlanks : ∀ c ∈ gap, c ∈ blanks) : parse? (text ++ gap) = some json := by
  have ends : EndsValue gap := by
    intro c isHead
    exact List.mem_append_left _ (areBlanks c (List.mem_of_mem_head? isHead))
  have enough : text.length ≤ (text ++ gap).length := by
    rw [List.length_append]
    exact Nat.le_add_right _ _
  have read : value? (2 * (text ++ gap).length + 2) (text ++ gap).length (text ++ gap) =
      some (json, gap) :=
    spells.reads (by omega) enough ends
  have nothing : skipSpace gap = [] := by
    have skipped := skipSpace_blanks areBlanks []
    rwa [List.append_nil] at skipped
  rw [parse?, parseWithin?, read]
  simp [nothing]

end BatchLens.Json
