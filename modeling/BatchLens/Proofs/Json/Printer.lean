import Mathlib.Data.Bool.AllAny
import BatchLens.Json.Printer
import BatchLens.Proofs.Json.Completeness

/-!
# What is printed is spelled

A string is printed as one of its spellings (`spellsString_escape`), and so is an object in either
layout, if the values of its members are (`spells_compact_object`, `spells_pretty_object`). That
they are read back follows from the grammar alone.
-/

namespace BatchLens.Json

open Reader (Piece)

/-! ## Strings -/

theorem SpellsString.of_means {found : List Piece} {value written : Text}
    (spells : SpellsPieces found written) (means : Means found value) :
    SpellsString (some value) written := by
  refine ⟨found, spells, ?_⟩
  intro text
  constructor
  · intro same
    rwa [← Option.some.inj same]
  · intro other
    rw [← means.spelled?_eq, other.spelled?_eq]

theorem spellsUnit_control {c : Char} (isControl : c.toNat < 0x20) :
    SpellsUnit c.toNat
      ['0', '0', Text.hexDigit (c.toNat / 16), Text.hexDigit (c.toNat % 16)] := by
  have areSmall : ∀ code < 0x20, SpellsUnit code
      ['0', '0', Text.hexDigit (code / 16), Text.hexDigit (code % 16)] := by
    unfold SpellsUnit
    decide
  exact areSmall c.toNat isControl

theorem escapeChar_cases (c : Char) :
    (∃ letter, (letter, c) ∈ escapes ∧ escapeChar c = ['\\', letter]) ∨
      (c.toNat < 0x20 ∧ escapeChar c =
        ['\\', 'u', '0', '0', Text.hexDigit (c.toNat / 16), Text.hexDigit (c.toNat % 16)]) ∨
      0x20 ≤ c.toNat ∧ c ≠ '"' ∧ c ≠ '\\' ∧ escapeChar c = [c] := by
  by_cases special : c ∈ ['"', '\\', '\n', '\r', '\t', '\x08', '\x0c']
  · have areSpecial : ∀ c ∈ ['"', '\\', '\n', '\r', '\t', '\x08', '\x0c'],
        escapes.any fun escape => escape.2 = c ∧ escapeChar c = ['\\', escape.1] :=
      List.all_iff_forall_prop.mp (by decide)
    rcases List.any_iff_exists_prop.mp (areSpecial c special)
      with ⟨⟨letter, _⟩, isEscape, rfl, escaped⟩
    exact .inl ⟨letter, isEscape, escaped⟩
  · simp only [List.mem_cons, List.not_mem_nil, or_false, not_or] at special
    rcases Nat.lt_or_ge c.toNat 0x20 with isControl | isPlain
    · exact .inr (.inl ⟨isControl, by simp [escapeChar, special, isControl]⟩)
    · have notControl : ¬c.toNat < 0x20 := Nat.not_lt.mpr isPlain
      exact .inr (.inr ⟨isPlain, special.1, special.2.1, by simp [escapeChar, special, notControl]⟩)

/-- Every character is printed as one piece that stands for it. -/
theorem exists_piece_escapeChar (c : Char) :
    ∃ piece, (∀ found written, SpellsPieces found written →
        SpellsPieces (piece :: found) (escapeChar c ++ written)) ∧
      ∀ found text, Means found text → Means (piece :: found) (c :: text) := by
  rcases escapeChar_cases c with
    ⟨letter, isEscape, escaped⟩ | ⟨isControl, escaped⟩ | ⟨notControl, notQuote, notBackslash, plain⟩
  · refine ⟨.char c, ?_, fun _ _ => .char⟩
    intro found written spells
    rw [escaped]
    exact .escaped isEscape spells
  · refine ⟨.unit c.toNat, ?_, fun _ _ => .unit⟩
    intro found written spells
    rw [escaped]
    exact .unit (spellsUnit_control isControl) spells
  · refine ⟨.char c, ?_, fun _ _ => .char⟩
    intro found written spells
    rw [plain]
    exact .plain notControl notQuote notBackslash spells

/-- What is printed between quotes spells the text. -/
theorem spellsString_escape (value : Text) :
    SpellsString (some value) (value.flatMap escapeChar) := by
  have isSpelled : ∃ found, SpellsPieces found (value.flatMap escapeChar) ∧ Means found value := by
    induction value with
    | nil => exact ⟨[], .nil, .nil⟩
    | cons c others ih =>
        rcases ih with ⟨found, spells, means⟩
        rcases exists_piece_escapeChar c with ⟨piece, spellsMore, meansMore⟩
        exact ⟨piece :: found, spellsMore found _ spells, meansMore found _ means⟩
  rcases isSpelled with ⟨found, spells, means⟩
  exact .of_means spells means

theorem spells_quote (value : Text) : Spells (.value (.string value)) (quote value) :=
  .string (spellsString_escape value)

theorem spells_bool (value : Bool) : Spells (.value (.bool value)) (spellScalar (.bool value)) := by
  cases value with
  | false => exact .false
  | true => exact .true

theorem compact_bool (value : Bool) : compact (.bool value) = spellScalar (.bool value) := by
  simp [compact]

theorem compact_string (value : Text) : compact (.string value) = quote value := by
  simp [compact, spellScalar]

theorem prettyAt_bool (level : Nat) (value : Bool) :
    prettyAt level (.bool value) = spellScalar (.bool value) := by
  simp [prettyAt]

theorem prettyAt_string (level : Nat) (value : Text) :
    prettyAt level (.string value) = quote value := by
  simp [prettyAt, spellScalar]

/-! ## Objects -/

theorem Spells.behind_blanks {form : Form} {gap text : Text} (areBlanks : ∀ c ∈ gap, c ∈ blanks)
    (spells : Spells form text) : Spells form (gap ++ text) := by
  induction gap with
  | nil => exact spells
  | cons c others ih =>
      rw [List.forall_mem_cons] at areBlanks
      exact .blank areBlanks.1 (ih areBlanks.2)

/-- The members of an object as a reader finds them. -/
def keyed (members : List (Text × Json)) : List (Option Text × Json) :=
  members.map fun member => (some member.1, member.2)

theorem objectOf_keyed (members : List (Text × Json)) :
    Reader.objectOf (keyed members) = .object members := by
  have found : Reader.keyed? (keyed members) = some members := by
    induction members with
    | nil => rfl
    | cons member others ih =>
        rw [keyed] at ih
        simp [keyed, Reader.keyed?, ih]
  rw [Reader.objectOf, found]

theorem Spells.objectOf {members : List (Text × Json)} {body : Text}
    (inside : Spells (.members (keyed members)) body) :
    Spells (.value (.object members)) ('{' :: body) := by
  rw [← objectOf_keyed members]
  exact .object inside

theorem spells_member (key : Text) {gap text : Text} {json : Json}
    (areBlanks : ∀ c ∈ gap, c ∈ blanks) (spells : Spells (.value json) text) :
    Spells (.member (some key) json) (quote key ++ ':' :: (gap ++ text)) := by
  have noGap : ∀ c ∈ ([] : Text), c ∈ blanks := by simp
  have member := Spells.member (spellsString_escape key) noGap (spells.behind_blanks areBlanks)
  simpa [quote] using member

theorem spells_compactMembers {members : List (Text × Json)}
    (values : ∀ member ∈ members, Spells (.value member.2) (compact member.2)) :
    Spells (.moreMembers (keyed members)) (compactMembers members) := by
  induction members with
  | nil =>
      rw [compactMembers]
      exact .lastMember
  | cons member others ih =>
      rw [List.forall_mem_cons] at values
      have noGap : ∀ c ∈ ([] : Text), c ∈ blanks := by simp
      have next := Spells.nextMember (spells_member member.1 noGap values.1) (ih values.2)
      rw [compactMembers]
      simpa [keyed] using next

/-- An object without any blanks is spelled if the values of its members are. -/
theorem spells_compact_object {members : List (Text × Json)}
    (values : ∀ member ∈ members, Spells (.value member.2) (compact member.2)) :
    Spells (.value (.object members)) (compact (.object members)) := by
  cases members with
  | nil =>
      rw [compact]
      exact .objectOf .noMember
  | cons member others =>
      rw [List.forall_mem_cons] at values
      have noGap : ∀ c ∈ ([] : Text), c ∈ blanks := by simp
      have first := Spells.firstMember (spells_member member.1 noGap values.1)
        (spells_compactMembers values.2)
      rw [compact]
      apply Spells.objectOf
      simpa [keyed] using first

theorem newLine_blanks (level : Nat) : ∀ c ∈ newLine level, c ∈ blanks := by
  intro c isIn
  rcases List.mem_cons.mp isIn with rfl | isIndent
  · decide
  · rw [List.eq_of_mem_replicate isIndent]
    decide

theorem spells_prettyMembers {level : Nat} {members : List (Text × Json)}
    (values : ∀ member ∈ members, Spells (.value member.2) (prettyAt (level + 1) member.2)) :
    Spells (.moreMembers (keyed members)) (prettyMembers level members) := by
  induction members with
  | nil =>
      rw [prettyMembers]
      exact .behind_blanks (newLine_blanks level) .lastMember
  | cons member others ih =>
      rw [List.forall_mem_cons] at values
      have isGap : ∀ c ∈ [' '], c ∈ blanks := by simp [blanks]
      have isMember := (spells_member member.1 isGap values.1).behind_blanks
        (newLine_blanks (level + 1))
      have next := Spells.nextMember isMember (ih values.2)
      rw [prettyMembers]
      simpa [keyed] using next

/-- An object with a member on each line is spelled if the values of its members are. -/
theorem spells_pretty_object {level : Nat} {members : List (Text × Json)}
    (values : ∀ member ∈ members, Spells (.value member.2) (prettyAt (level + 1) member.2)) :
    Spells (.value (.object members)) (prettyAt level (.object members)) := by
  cases members with
  | nil =>
      rw [prettyAt]
      exact .objectOf .noMember
  | cons member others =>
      rw [List.forall_mem_cons] at values
      have isGap : ∀ c ∈ [' '], c ∈ blanks := by simp [blanks]
      have isMember := (spells_member member.1 isGap values.1).behind_blanks
        (newLine_blanks (level + 1))
      have first := Spells.firstMember isMember (spells_prettyMembers values.2)
      rw [prettyAt]
      apply Spells.objectOf
      simpa [keyed] using first

end BatchLens.Json
