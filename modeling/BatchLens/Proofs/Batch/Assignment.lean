import Mathlib.Data.Bool.AllAny
import BatchLens.Proofs.Batch.Precedence
import BatchLens.Proofs.Batch.WholeKeyword

/-!
# The target of an assignment

In front of the target of an assignment a switch and a quote may stand, and a name may look like a
switch itself. The pattern tries the switch first and gives it back where no target would follow.
What it prefers need not be known all the same, because an assignment can be read in one way only
(`Assignment.IsWritten.unique`): every match at its place marks the same target. No match begins in
the white space in front of it, so that the search comes upon this place
(`Assignment.IsWritten.target_mem_candidates`), and a line that begins with a command does not begin
with a remark. So the target is always found (`classify_assignment`).
-/

namespace BatchLens

/-- The pieces of an assignment in front of its equals sign. -/
structure Assignment where
  command : Text
  spaces : Text
  switch : Text
  quote : Text
  name : Text
  gap : Text
  deriving DecidableEq

namespace Assignment

/-- What stands in front of the target. -/
def front (assignment : Assignment) : Text :=
  assignment.command ++ assignment.spaces ++ assignment.switch ++ assignment.quote

/-- The assignment up to its equals sign. -/
def text (assignment : Assignment) : Text :=
  assignment.front ++ assignment.name ++ assignment.gap ++ ['=']

/-- What follows the switch, with the text behind the equals sign. -/
def body (assignment : Assignment) (rest : Text) : Text :=
  assignment.quote ++ (assignment.name ++ (assignment.gap ++ '=' :: rest))

/-- A switch for an arithmetic value or for a prompt, in any case, with white space behind it. -/
def IsSwitch (switch : Text) : Prop :=
  ∃ letter spaces, switch = '/' :: letter :: spaces ∧
    (Unicode.foldToAscii letter = 'a' ∨ Unicode.foldToAscii letter = 'p') ∧
    spaces ≠ [] ∧ ∀ c ∈ spaces, Unicode.isWhiteSpace c = true

/-- How the pieces of an assignment are written: the command in any case, white space, a switch or
none, a quote or none, a target that is not empty, and perhaps more white space. -/
structure IsWritten (assignment : Assignment) : Prop where
  isCommand : assignment.command.map Unicode.foldToAscii = "set".toList
  spaces_ne_nil : assignment.spaces ≠ []
  areSpaces : ∀ c ∈ assignment.spaces, Unicode.isWhiteSpace c = true
  isSwitch : assignment.switch = [] ∨ IsSwitch assignment.switch
  isQuote : assignment.quote = [] ∨ assignment.quote = ['"']
  name_ne_nil : assignment.name ≠ []
  isSolid : ∀ c ∈ assignment.name, Unicode.isWhiteSpace c = false ∧ c ≠ '=' ∧ c ≠ '"'
  areGap : ∀ c ∈ assignment.gap, Unicode.isWhiteSpace c = true

/-! ## An assignment is read in one way only -/

section

variable {assignment other : Assignment} {rest rest' : Text}

theorem text_append (assignment : Assignment) (rest : Text) :
    assignment.text ++ rest =
      assignment.command ++ (assignment.spaces ++ (assignment.switch ++ assignment.body rest)) := by
  simp [text, front, body]

theorem isTargetChar_iff {c : Char} :
    Grammar.isTargetChar c = true ↔ Unicode.isWhiteSpace c = false ∧ c ≠ '=' ∧ c ≠ '"' := by
  simp [Grammar.isTargetChar, Grammar.isSolid, and_assoc]

theorem IsWritten.isTarget (isWritten : assignment.IsWritten) :
    ∀ c ∈ assignment.name, Grammar.isTargetChar c = true :=
  fun c isIn => isTargetChar_iff.mpr (isWritten.isSolid c isIn)

/-- What follows the switch begins with a quote or with the target. -/
theorem IsWritten.exists_head_body (isWritten : assignment.IsWritten) (rest : Text) :
    ∃ c more, assignment.body rest = c :: more ∧ Unicode.isWhiteSpace c = false ∧ c ≠ '=' := by
  rcases List.exists_cons_of_ne_nil isWritten.name_ne_nil with ⟨first, others, name⟩
  rcases isWritten.isQuote with noQuote | quote
  · rcases isWritten.isSolid first (by simp [name]) with ⟨solid, notEquals, _⟩
    exact ⟨first, _, by rw [body, noQuote, name]; rfl, solid, notEquals⟩
  · exact ⟨'"', _, by rw [body, quote]; rfl, by decide, by decide⟩

theorem target_cut_unique {name ends name' ends' : Text} (same : name ++ ends = name' ++ ends')
    (isTarget : ∀ c ∈ name, Grammar.isTargetChar c = true)
    (isTarget' : ∀ c ∈ name', Grammar.isTargetChar c = true)
    (stops : ∀ c ∈ ends.head?, Grammar.isTargetChar c = false)
    (stops' : ∀ c ∈ ends'.head?, Grammar.isTargetChar c = false) : name = name' ∧ ends = ends' := by
  let isOther (c : Char) : Bool := !Grammar.isTargetChar c
  have inName : ∀ c ∈ name, isOther c = false := by simpa [isOther] using isTarget
  have inName' : ∀ c ∈ name', isOther c = false := by simpa [isOther] using isTarget'
  have isEnd : ∀ c ∈ ends.head?, isOther c = true := by simpa [isOther] using stops
  have isEnd' : ∀ c ∈ ends'.head?, isOther c = true := by simpa [isOther] using stops'
  exact Text.cut_inj same inName inName' isEnd isEnd'

theorem isTargetChar_eq_false_of_isWhiteSpace {c : Char} (space : Unicode.isWhiteSpace c = true) :
    Grammar.isTargetChar c = false := by
  simp [Grammar.isTargetChar, Grammar.isSolid, space]

/-- Behind the target comes white space or the equals sign. -/
theorem IsWritten.stops (isWritten : assignment.IsWritten) :
    ∀ c ∈ (assignment.gap ++ '=' :: rest).head?, Grammar.isTargetChar c = false := by
  have areGap := isWritten.areGap
  intro c isHead
  cases gap : assignment.gap with
  | nil =>
      obtain rfl : '=' = c := by simpa [gap] using isHead
      decide
  | cons first others =>
      obtain rfl : first = c := by simpa [gap] using isHead
      exact isTargetChar_eq_false_of_isWhiteSpace (areGap first (by simp [gap]))

/-- A target that looks like a switch is not mistaken for one: no target would follow. -/
theorem IsWritten.body_ne_switch (isWritten : assignment.IsWritten) (isOther : other.IsWritten)
    {switch : Text} (isSwitch : IsSwitch switch) :
    assignment.body rest ≠ switch ++ other.body rest' := by
  rcases isSwitch with ⟨letter, spaces, rfl, isLetter, nonempty, areSpaces⟩
  rcases isOther.exists_head_body rest' with ⟨first, more, otherBody, solid, notEquals⟩
  intro same
  have noQuote : assignment.quote = [] := by
    rcases isWritten.isQuote with noQuote | quote
    · exact noQuote
    · rw [body, quote] at same
      exact absurd (List.cons.inj same).1 (by decide)
  have letterIsTarget : Grammar.isTargetChar letter = true := by
    apply Unicode.passes_of_foldToAscii (by decide)
    rcases isLetter with folds | folds <;>
      rw [folds] <;> decide
  have cut : assignment.name ++ (assignment.gap ++ '=' :: rest) =
      ['/', letter] ++ (spaces ++ other.body rest') := by
    rw [body, noQuote] at same
    exact same
  have spacesStop : ∀ c ∈ (spaces ++ other.body rest').head?, Grammar.isTargetChar c = false := by
    intro c isHead
    rw [List.head?_append_of_ne_nil _ nonempty] at isHead
    exact isTargetChar_eq_false_of_isWhiteSpace (areSpaces c (List.mem_of_mem_head? isHead))
  have slashIsTarget : ∀ c ∈ ['/', letter], Grammar.isTargetChar c = true := by
    simpa using ⟨by decide, letterIsTarget⟩
  obtain ⟨_, ends⟩ := target_cut_unique cut isWritten.isTarget slashIsTarget isWritten.stops
    spacesStop
  -- The white space ends in front of the equals sign, where the other body would have to begin.
  have solidEquals : ∃ c ∈ ('=' :: rest).head?, Unicode.isWhiteSpace c = false :=
    ⟨'=', rfl, by decide⟩
  have solidBody : ∃ c ∈ (other.body rest').head?, Unicode.isWhiteSpace c = false :=
    ⟨first, by rw [otherBody]; rfl, solid⟩
  obtain ⟨_, equals⟩ := Grammar.solid_cut_unique ends isWritten.areGap solidEquals areSpaces
    solidBody
  rw [otherBody] at equals
  exact notEquals (List.cons.inj equals).1.symm

theorem IsSwitch.cut_unique {switch switch' : Text} (isSwitch : IsSwitch switch)
    (isSwitch' : IsSwitch switch') (isWritten : assignment.IsWritten) (isOther : other.IsWritten)
    (same : switch ++ assignment.body rest = switch' ++ other.body rest') :
    switch = switch' ∧ assignment.body rest = other.body rest' := by
  rcases isSwitch with ⟨letter, spaces, rfl, _, _, areSpaces⟩
  rcases isSwitch' with ⟨letter', spaces', rfl, _, _, areSpaces'⟩
  rcases isWritten.exists_head_body rest with ⟨first, more, isBody, solid, _⟩
  rcases isOther.exists_head_body rest' with ⟨first', more', isBody', solid', _⟩
  obtain ⟨_, rest⟩ := List.cons.inj same
  obtain ⟨rfl, cut⟩ := List.cons.inj rest
  obtain ⟨rfl, sameBody⟩ := Grammar.solid_cut_unique cut areSpaces
    ⟨first, by rw [isBody]; rfl, solid⟩ areSpaces' ⟨first', by rw [isBody']; rfl, solid'⟩
  exact ⟨rfl, sameBody⟩

/-- Behind the switch a quote is no part of the target, and the target ends where it has to. -/
theorem IsWritten.body_unique (isWritten : assignment.IsWritten) (isOther : other.IsWritten)
    (same : assignment.body rest = other.body rest') :
    assignment.quote = other.quote ∧ assignment.name = other.name ∧ assignment.gap = other.gap ∧
      rest = rest' := by
  have noQuote {first : Assignment} (isFirst : first.IsWritten) {ends ends' : Text} :
      first.name ++ ends ≠ '"' :: ends' := by
    rcases List.exists_cons_of_ne_nil isFirst.name_ne_nil with ⟨c, others, name⟩
    rw [name]
    intro clash
    exact (isFirst.isSolid c (by simp [name])).2.2 (List.cons.inj clash).1
  have quoteEq : assignment.quote = other.quote := by
    rw [body, body] at same
    rcases isWritten.isQuote with none | quote <;> rcases isOther.isQuote with none' | quote'
    · rw [none, none']
    · rw [none, quote'] at same
      exact absurd same (noQuote isWritten)
    · rw [quote, none'] at same
      exact absurd same.symm (noQuote isOther)
    · rw [quote, quote']
  rw [body, body, quoteEq] at same
  obtain ⟨nameEq, ends⟩ := target_cut_unique (List.append_cancel_left same) isWritten.isTarget
    isOther.isTarget isWritten.stops isOther.stops
  obtain ⟨gapEq, equals⟩ := Grammar.solid_cut_unique ends isWritten.areGap ⟨'=', rfl, by decide⟩
    isOther.areGap ⟨'=', rfl, by decide⟩
  exact ⟨quoteEq, nameEq, gapEq, (List.cons.inj equals).2⟩

/-- What follows the white space behind the command is solid, with a switch or without. -/
theorem IsWritten.solid_behind_spaces (isWritten : assignment.IsWritten) (rest : Text) :
    ∃ c ∈ (assignment.switch ++ assignment.body rest).head?, Unicode.isWhiteSpace c = false := by
  rcases isWritten.isSwitch with noSwitch | ⟨letter, spaces, switch, _⟩
  · rcases isWritten.exists_head_body rest with ⟨first, more, isBody, solid, _⟩
    exact ⟨first, by rw [noSwitch, isBody]; rfl, solid⟩
  · exact ⟨'/', by rw [switch]; rfl, by decide⟩

/-- An assignment begins with the first letter of its command. -/
theorem IsWritten.exists_head_text (isWritten : assignment.IsWritten) :
    ∃ c more, assignment.text = c :: more ∧ Unicode.foldToAscii c = 's' := by
  have isCommand : assignment.command.map Unicode.foldToAscii = ['s', 'e', 't'] :=
    isWritten.isCommand
  rcases List.map_eq_cons_iff.mp isCommand with ⟨c, others, command, folds, _⟩
  exact ⟨c, _, by rw [text, front, command]; rfl, folds⟩

/-- Two readings of one text are the same. -/
theorem IsWritten.unique (isWritten : assignment.IsWritten) (isOther : other.IsWritten)
    (same : assignment.text ++ rest = other.text ++ rest') :
    assignment = other ∧ rest = rest' := by
  rw [text_append, text_append] at same
  have sameLength : assignment.command.length = other.command.length := by
    rw [Grammar.length_of_map isWritten.isCommand, Grammar.length_of_map isOther.isCommand]
  obtain ⟨commandEq, behindCommand⟩ := List.append_inj same sameLength
  obtain ⟨spacesEq, behindSpaces⟩ := Grammar.solid_cut_unique behindCommand isWritten.areSpaces
    (isWritten.solid_behind_spaces rest) isOther.areSpaces (isOther.solid_behind_spaces rest')
  have switchEq : assignment.switch = other.switch ∧
      assignment.body rest = other.body rest' := by
    rcases isWritten.isSwitch with noSwitch | isSwitch <;>
      rcases isOther.isSwitch with noSwitch' | isSwitch'
    · rw [noSwitch, noSwitch'] at behindSpaces
      exact ⟨noSwitch.trans noSwitch'.symm, behindSpaces⟩
    · rw [noSwitch] at behindSpaces
      exact absurd behindSpaces (isWritten.body_ne_switch isOther isSwitch')
    · rw [noSwitch'] at behindSpaces
      exact absurd behindSpaces.symm (isOther.body_ne_switch isWritten isSwitch)
    · exact isSwitch.cut_unique isSwitch' isWritten isOther behindSpaces
  obtain ⟨quoteEq, nameEq, gapEq, restEq⟩ := isWritten.body_unique isOther switchEq.2
  refine ⟨?_, restEq⟩
  cases assignment
  cases other
  simp only [Assignment.mk.injEq]
  exact ⟨commandEq, spacesEq, switchEq.1, quoteEq, nameEq, gapEq⟩

end

end Assignment

/-! ## What the pattern marks -/

namespace Grammar

open Pattern

/-- A switch with white space behind it, or nothing. -/
def switch : Pattern := maybe (char '/' ++ letterOf "ap" ++ oneOrMore isSpace)

/-- An assignment, with its target marked. -/
def assignment : Pattern :=
  wordBoundary ++ word "set".toList ++ oneOrMore isSpace ++ switch ++ maybe (char '"') ++
    token (oneOrMore isTargetChar) ++ many isSpace ++ char '='

/-- A variable between percent signs, or a modified argument. -/
def reference : Pattern :=
  token (char '%' ++ oneOrMore isReferenceChar ++ char '%') <|>
  token (literal "%~".toList ++
    oneOrMore (fun c => "fdpnxsatz".toList.contains (Unicode.foldToAscii c)) ++
    one Unicode.isDecimalDigit)

theorem identifier_eq : identifier = (assignment <|> reference) := rfl

variable {before taken behind : Text} {token : Option ByteRange}

/-- The range of the target when the text `before` stands in front of the assignment. -/
def targetOf (before : Text) (assignment : Assignment) : ByteRange :=
  ⟨(before ++ assignment.front).byteLen, (before ++ assignment.front ++ assignment.name).byteLen⟩

theorem ofRange_targetOf (before : Text) (assignment : Assignment) :
    Span.ofRange .identifier (targetOf before assignment) =
      ⟨(before ++ assignment.front).byteLen, assignment.name.byteLen, .identifier⟩ := by
  rw [Span.ofRange, targetOf, Text.byteLen_append (before ++ assignment.front),
    Nat.add_sub_cancel_left]

theorem takes_switch :
    switch.Takes before taken behind token ↔
      (taken = [] ∨ Assignment.IsSwitch taken) ∧ token = none := by
  simp only [switch, letterOf, takes_maybe, takes_append, takes_char, takes_one, takes_oneOrMore,
    List.contains_iff_mem]
  constructor
  · rintro (⟨_, spaces, _, _, rfl, ⟨_, _, _, _, rfl, ⟨rfl, rfl⟩, ⟨letter, isLetter, rfl, rfl⟩, rfl⟩,
      ⟨nonempty, areSpaces, rfl⟩, rfl⟩ | ⟨rfl, rfl⟩)
    · exact ⟨.inr ⟨letter, spaces, rfl, by simpa using isLetter, nonempty, areSpaces⟩, rfl⟩
    · exact ⟨.inl rfl, rfl⟩
  · rintro ⟨rfl | ⟨letter, spaces, rfl, isLetter, nonempty, areSpaces⟩, rfl⟩
    · exact .inr ⟨rfl, rfl⟩
    · refine .inl ⟨['/', letter], spaces, none, none, rfl, ⟨['/'], [letter], none, none, rfl,
        ⟨rfl, rfl⟩, ⟨letter, by simpa using isLetter, rfl, rfl⟩, rfl⟩,
        ⟨nonempty, areSpaces, rfl⟩, rfl⟩

/-- A match of the pattern for assignments is an assignment, and its target is marked. -/
theorem of_takes_assignment (takes : assignment.Takes before taken behind token) :
    ∃ written : Assignment, written.IsWritten ∧ taken = written.text ∧
      token = some (targetOf before written) := by
  simp only [assignment, takes_append, takes_wordBoundary, takes_word, takes_oneOrMore,
    takes_switch, takes_maybe, takes_char, takes_token, takes_many] at takes
  -- The pieces are taken off from the back.
  rcases takes with ⟨_, _, _, _, rfl, takes, ⟨rfl, rfl⟩, rfl⟩
  rcases takes with ⟨_, gap, _, _, rfl, takes, ⟨areGap, rfl⟩, rfl⟩
  rcases takes with ⟨_, name, _, _, rfl, takes, ⟨⟨_, name_ne_nil, isTarget, _⟩, rfl⟩, rfl⟩
  rcases takes with ⟨_, quote, _, _, rfl, takes, isQuote, rfl⟩
  rcases takes with ⟨_, switch, _, _, rfl, takes, ⟨isSwitch, rfl⟩, rfl⟩
  rcases takes with ⟨_, spaces, _, _, rfl, takes, ⟨spaces_ne_nil, areSpaces, rfl⟩, rfl⟩
  rcases takes with ⟨_, command, _, _, rfl, ⟨_, rfl, rfl⟩, ⟨isCommand, rfl⟩, rfl⟩
  refine ⟨⟨command, spaces, switch, quote, name, gap⟩, ⟨isCommand, spaces_ne_nil, areSpaces,
    isSwitch, ?_, name_ne_nil, fun c isIn => Assignment.isTargetChar_iff.mp (isTarget c isIn),
    areGap⟩, by simp [Assignment.text, Assignment.front], ?_⟩
  · rcases isQuote with ⟨isQuote, _⟩ | ⟨noQuote, _⟩
    · exact .inr isQuote
    · exact .inl noQuote
  · rcases isQuote with ⟨_, rfl⟩ | ⟨_, rfl⟩ <;>
      simp [targetOf, Assignment.front]

/-- The pattern can read every assignment in the way in which it is written. -/
theorem takes_of_isWritten {written : Assignment} (isWritten : written.IsWritten)
    (begins : Text.BordersWord before (written.text ++ behind)) :
    assignment.Takes before written.text behind (some (targetOf before written)) := by
  have isQuote : (written.quote = ['"'] ∧ (none : Option ByteRange) = none) ∨
      (written.quote = [] ∧ (none : Option ByteRange) = none) := by
    simpa [or_comm] using isWritten.isQuote
  rw [Assignment.text_append] at begins
  simp only [assignment, takes_append, takes_wordBoundary, takes_word, takes_oneOrMore,
    takes_switch, takes_maybe, takes_char, takes_token, takes_many]
  refine ⟨_, ['='], _, none, rfl, ⟨_, written.gap, _, none, rfl, ⟨_, written.name, none, _, rfl,
    ⟨_, written.quote, none, none, rfl, ⟨_, written.switch, none, none, rfl,
      ⟨_, written.spaces, none, none, rfl, ⟨[], written.command, none, none, rfl,
        ⟨by simpa [Assignment.body] using begins, rfl, rfl⟩,
        ⟨isWritten.isCommand, rfl⟩, rfl⟩, ⟨isWritten.spaces_ne_nil, isWritten.areSpaces, rfl⟩, rfl⟩,
      ⟨isWritten.isSwitch, rfl⟩, rfl⟩, isQuote, rfl⟩,
    ⟨⟨none, isWritten.name_ne_nil, isWritten.isTarget, rfl⟩, rfl⟩, rfl⟩,
    ⟨isWritten.areGap, rfl⟩, rfl⟩, ⟨rfl, rfl⟩, ?_⟩
  simp [targetOf, Assignment.front]

theorem head_of_takes_reference (takes : reference.Takes before taken behind token) :
    ∃ more, taken = '%' :: more := by
  simp only [reference, takes_orElse, takes_token, takes_append, takes_char, takes_literal] at takes
  rcases takes with ⟨⟨_, _, _, _, _, rfl, ⟨_, _, _, _, rfl, ⟨rfl, _⟩, _⟩, _⟩, _⟩ |
    ⟨⟨_, _, _, _, _, rfl, ⟨_, _, _, _, rfl, ⟨rfl, _⟩, _⟩, _⟩, _⟩ <;>
  exact ⟨_, rfl⟩

/-- No match begins with white space. -/
theorem solid_of_takes_identifier (takes : identifier.Takes before taken behind token) :
    ∃ c more, taken = c :: more ∧ isSolid c = true := by
  rw [identifier_eq, takes_orElse] at takes
  rcases takes with isAssignment | isReference
  · rcases of_takes_assignment isAssignment with ⟨written, isWritten, rfl, _⟩
    rcases isWritten.exists_head_text with ⟨c, more, text, folds⟩
    exact ⟨c, more, text, Unicode.passes_of_foldToAscii (by decide) (by rw [folds]; decide)⟩
  · rcases head_of_takes_reference isReference with ⟨more, rfl⟩
    exact ⟨'%', more, rfl, by decide⟩

/-- Every match at the place of an assignment marks its target. -/
theorem token_of_takes_identifier {written : Assignment} {rest : Text}
    (isWritten : written.IsWritten) (takes : identifier.Takes before taken behind token)
    (same : taken ++ behind = written.text ++ rest) : token = some (targetOf before written) := by
  rw [identifier_eq, takes_orElse] at takes
  rcases takes with isAssignment | isReference
  · rcases of_takes_assignment isAssignment with ⟨other, isOther, rfl, rfl⟩
    obtain ⟨rfl, _⟩ := isOther.unique isWritten same
    rfl
  · rcases head_of_takes_reference isReference with ⟨more, rfl⟩
    rcases isWritten.exists_head_text with ⟨c, others, text, folds⟩
    rw [text] at same
    rw [← (List.cons.inj same).1] at folds
    exact absurd folds (by decide)

theorem isWhiteSpace_eq_false_of_foldToAscii {c letter : Char}
    (folds : Unicode.foldToAscii c = letter) (solid : isSolid letter = true) :
    Unicode.isWhiteSpace c = false := by
  have isSolid : isSolid c = true := Unicode.passes_of_foldToAscii (by decide) (by rwa [folds])
  simpa [Grammar.isSolid] using isSolid

/-- A remark begins with another letter than an assignment. -/
theorem exists_head_remark {sign opening : Text} (rest : Text) (isSign : sign = [] ∨ sign = ['@'])
    (isOpening : opening.map Unicode.foldToAscii = "rem".toList ∨ opening = "::".toList) :
    ∃ c more, sign ++ opening ++ rest = c :: more ∧ Unicode.foldToAscii c ≠ 's' ∧
      Unicode.isWhiteSpace c = false := by
  rcases isSign with rfl | rfl
  · rcases isOpening with isCommand | rfl
    · have isCommand : opening.map Unicode.foldToAscii = ['r', 'e', 'm'] := isCommand
      rcases List.map_eq_cons_iff.mp isCommand with ⟨c, others, rfl, folds, _⟩
      exact ⟨c, others ++ rest, rfl, by simp [folds],
        isWhiteSpace_eq_false_of_foldToAscii folds (by decide)⟩
    · exact ⟨':', ':' :: rest, rfl, by decide, by decide⟩
  · exact ⟨'@', opening ++ rest, rfl, by decide, by decide⟩

end Grammar

/-! ## The target among the spans -/

namespace Assignment.IsWritten

open Grammar Classification

variable {assignment : Assignment} {before rest : Text}

theorem bordersWord (isWritten : assignment.IsWritten)
    (areSpaces : ∀ c ∈ before, Unicode.isWhiteSpace c = true) :
    Text.BordersWord before (assignment.text ++ rest) := by
  have commandIsWord := Unicode.isWordChar_of_map isWritten.isCommand (by decide +kernel)
  have nonempty : assignment.command ≠ [] := by
    intro noCommand
    exact absurd isWritten.isCommand (by rw [noCommand]; decide)
  rw [text_append]
  apply (Text.bordersWord_iff_of_word_behind nonempty commandIsWord).mpr
  intro c isLast
  rw [Bool.eq_false_iff]
  intro isWord
  have space := areSpaces c (List.mem_of_mem_getLast? isLast)
  rw [Unicode.isWhiteSpace_of_isWordChar isWord] at space
  exact Bool.noConfusion space

/-- No match begins in the white space in front, so that the search comes upon the assignment. -/
theorem target_mem_candidates (isWritten : assignment.IsWritten)
    (areSpaces : ∀ c ∈ before, Unicode.isWhiteSpace c = true) :
    Span.ofRange .identifier (targetOf before assignment) ∈
      candidates (before ++ (assignment.text ++ rest)) .identifier := by
  have begins : Text.BordersWord before (assignment.text ++ rest) :=
    isWritten.bordersWord areSpaces
  have takes : identifier.Takes before assignment.text rest
      (some (targetOf before assignment)) := by
    rw [identifier_eq, Pattern.takes_orElse]
    exact .inl (takes_of_isWritten isWritten begins)
  have nonempty : assignment.text ++ rest ≠ [] := by simp [text]
  rcases Pattern.exists_reaching_of_takes takes nonempty with
    ⟨front, back, more, later, token, reaches, found⟩
  have atPlace : back = [] := by
    rcases solid_of_takes_identifier reaches.prefers.takes with ⟨c, others, parts, solid⟩
    rcases List.append_eq_cons_iff.mp parts with ⟨nothing, _⟩ | ⟨passed, isOver, _⟩
    · exact nothing
    · have space := areSpaces c (by simp [reaches.before_eq, isOver])
      simp [Grammar.isSolid, space] at solid
  have takesThere := reaches.prefers.takes
  obtain rfl : front = before := by simpa [atPlace] using reaches.before_eq.symm
  rw [atPlace] at takesThere found
  obtain rfl := token_of_takes_identifier isWritten takesThere reaches.behind_eq.symm
  apply mem_candidates_of_mem_tokensBetween found
  have positive : 0 < assignment.name.byteLen := Text.byteLen_pos isWritten.name_ne_nil
  simp only [Pattern.reported, Option.getD_some, targetOf, Text.byteLen_append] at *
  omega

/-- A remark at the start of the text would begin where the assignment begins, and a trailing one
begins further on. -/
theorem comment_start_ne_zero (isWritten : assignment.IsWritten)
    (areSpaces : ∀ c ∈ before, Unicode.isWhiteSpace c = true) {comment : Span}
    (isComment : comment? (before ++ (assignment.text ++ rest)) = some comment) :
    comment.start ≠ 0 := by
  rcases exists_prefers_of_mem_candidates (mem_candidates_of_comment? isComment) with
    ⟨front, taken, behind, token, cut, prefers, rfl⟩
  rcases of_takes_comment prefers.takes with
    ⟨rfl, spaces, sign, opening, inner, rfl, areLeading, isSign, isOpening, _⟩ |
    ⟨first, spaces, inner, _, _, _, rfl⟩
  · exfalso
    rcases isWritten.exists_head_text with ⟨c, others, text, folds⟩
    rcases exists_head_remark (inner ++ behind) isSign isOpening with
      ⟨d, others', remark, other, solid⟩
    have parts : before ++ (assignment.text ++ rest) =
        spaces ++ (sign ++ opening ++ (inner ++ behind)) := by
      simpa using cut
    rw [text, remark] at parts
    have letterSolid := isWhiteSpace_eq_false_of_foldToAscii folds (by decide)
    obtain ⟨_, same⟩ := solid_cut_unique parts areSpaces ⟨c, rfl, letterSolid⟩ areLeading
      ⟨d, rfl, solid⟩
    rw [← (List.cons.inj same).1] at other
    exact other folds
  · have positive := first.utf8Size_pos
    simp only [Pattern.reported, Option.getD_some, Span.ofRange, Text.byteLen_append,
      Text.byteLen_cons]
    omega

end Assignment.IsWritten

open Classification Grammar in
/-- The target of an assignment at the start of a line is always among the spans of the line: in
front of it a switch and a quote may stand, it may itself look like a switch, a reference or a
keyword, and anything may follow the equals sign. -/
theorem classify_assignment {assignment : Assignment} (before rest : Text)
    (areSpaces : ∀ c ∈ before, Unicode.isWhiteSpace c = true)
    (isWritten : assignment.IsWritten) :
    ⟨(before ++ assignment.front).byteLen, assignment.name.byteLen, .identifier⟩ ∈
      classify (before ++ assignment.text ++ rest) := by
  have isCandidate : Span.ofRange .identifier (targetOf before assignment) ∈
      candidates (before ++ (assignment.text ++ rest)) .identifier :=
    isWritten.target_mem_candidates areSpaces
  have notAtStart : ∀ comment, comment? (before ++ (assignment.text ++ rest)) = some comment →
      comment.start ≠ 0 := fun _ => isWritten.comment_start_ne_zero areSpaces
  rw [List.append_assoc, classify_eq notAtStart]
  apply List.mem_append_right
  rwa [ofRange_targetOf] at isCandidate

/-- The switch is read as one, the name that looks like another switch is the target, and the
trailing remark does not matter. -/
theorem classify_assignment_of_switch_name :
    (⟨8, 2, .identifier⟩ : Span) ∈ classify " SeT /P /a = b & rem".toList := by
  have areSpaces : ∀ c ∈ [' '], Unicode.isWhiteSpace c = true :=
    List.all_iff_forall_prop.mp (by decide)
  have isSwitch : Assignment.IsSwitch "/P ".toList :=
    ⟨'P', [' '], by decide, by decide, by decide, areSpaces⟩
  let assignment : Assignment := ⟨"SeT".toList, [' '], "/P ".toList, [], "/a".toList, [' ']⟩
  have isWritten : assignment.IsWritten :=
    ⟨by decide, by decide, areSpaces, .inr isSwitch, .inl rfl, by decide,
      List.all_iff_forall_prop.mp (by decide), areSpaces⟩
  have isText : [' '] ++ assignment.text ++ " b & rem".toList = " SeT /P /a = b & rem".toList := by
    decide
  have isPlace : Text.byteLen ([' '] ++ assignment.front) = 8 := by decide
  have isSpan := classify_assignment [' '] " b & rem".toList areSpaces isWritten
  rwa [isText, isPlace] at isSpan

end BatchLens
