import Mathlib.Data.List.Count
import BatchLens.Batch.Classification
import BatchLens.Proofs.Pattern.CutOff
import BatchLens.Proofs.Unicode.Letters

/-!
# What the patterns of the categories take

For each category the shape of what its pattern takes, and where the token begins in it. The token
of every category except the variable names reaches to the end of the match
(`reportsToEnd_pattern`) and contains something that is no white space
(`exists_solid_of_takes`), and neither a keyword nor a switch contains an ampersand
(`not_takes_ampersand`).
-/

namespace BatchLens.Grammar

open Pattern

variable {before taken behind : Text} {token : Option ByteRange}

/-! ## Letters in any case -/

@[simp]
theorem takes_word {letters : List Char} :
    (word letters).Takes before taken behind token ↔
      taken.map Unicode.foldToAscii = letters ∧ token = none := by
  induction letters generalizing before taken behind token with
  | nil => simp [word]
  | cons c rest ih =>
      rw [word, takes_append]
      constructor
      · rintro ⟨early, late, earlyToken, lateToken, rfl, takesFirst, takesRest, rfl⟩
        obtain ⟨d, same, rfl, rfl⟩ := takes_one.mp takesFirst
        obtain ⟨rfl, rfl⟩ := ih.mp takesRest
        exact ⟨by simpa using same, rfl⟩
      · rintro ⟨same, rfl⟩
        rcases List.map_eq_cons_iff.mp same with ⟨d, others, rfl, rfl, restEq⟩
        exact ⟨[d], others, none, none, rfl, takes_one.mpr ⟨d, by simp, rfl, rfl⟩,
          ih.mpr ⟨restEq, rfl⟩, rfl⟩

theorem foldToAscii_of_isSpace {c : Char} (space : isSpace c = true) :
    Unicode.foldToAscii c = c := by
  rcases Unicode.foldToAscii_eq_self_or_mem c with same | isLetter
  · exact same
  · have noSpaces : Unicode.folding.all (!isSpace ·) = true := by decide
    exact absurd space (by simpa using List.all_eq_true.mp noSpaces c isLetter)

theorem isLabelChar_of_foldToAscii {c : Char}
    (folds : isLabelChar (Unicode.foldToAscii c) = true) : isLabelChar c = true :=
  Unicode.passes_of_foldToAscii (by decide) folds

/-- What folds to characters of labels consists of such characters. -/
theorem isLabelChar_of_map {word letters : Text} (folds : word.map Unicode.foldToAscii = letters)
    (areLabelChars : letters.all isLabelChar = true) : ∀ c ∈ word, isLabelChar c = true := by
  intro c isIn
  apply isLabelChar_of_foldToAscii
  apply List.all_eq_true.mp areLabelChars
  rw [← folds]
  exact List.mem_map_of_mem isIn

theorem isSolid_of_isLabelChar {c : Char} (isIn : isLabelChar c = true) : isSolid c = true := by
  rw [isLabelChar, Bool.and_eq_true] at isIn
  exact isIn.1

/-- White space and colons are no part of a label. -/
theorem isLabelChar_eq_false {c : Char} (isGap : isSpace c = true ∨ c = ':') :
    isLabelChar c = false := by
  rcases isGap with space | rfl
  · have isWhite : Unicode.isWhiteSpace c = true := space
    simp [isLabelChar, isSolid, isWhite]
  · decide

/-! ## The shapes of matches -/

/-- A quoted text, or a command, white space and what it echoes. -/
theorem of_takes_string (takes : string.Takes before taken behind token) :
    (token = none ∧ ∃ quote inner, (quote = '"' ∨ quote = '\x27') ∧
        taken = quote :: (inner ++ [quote])) ∨
      ∃ command spaces first rest, taken = command ++ spaces ++ first :: rest ∧
        command.map Unicode.foldToAscii = "echo".toList ∧
        (spaces ≠ [] ∧ ∀ c ∈ spaces, isSpace c = true) ∧ isSolid first = true ∧
        token = some ⟨(before ++ (command ++ spaces)).byteLen, (before ++ taken).byteLen⟩ := by
  simp only [string, ↓Char.isValue, String.reduceToList, lineRest, takes_orElse, takes_append,
    takes_char, takes_many, bne_iff_ne, ne_eq, exists_and_left, ↓existsAndEq, and_true,
    Option.or_none, List.cons_append, List.nil_append, true_and, exists_and_right,
    takes_wordBoundary, takes_word, exists_eq_left', takes_oneOrMore, takes_token, takes_one,
    List.append_assoc, Text.byteLen_append, Option.or_some, Option.getD_none,
    Text.byteLen_cons] at takes
  rcases takes with ⟨inner, rfl, _, rfl⟩ | ⟨inner, rfl, _, rfl⟩ |
    ⟨rest, first, command, spaces, rfl, ⟨⟨_, isCommand⟩, areSpaces⟩, ⟨solid, _⟩, rfl⟩
  · exact .inl ⟨rfl, '"', inner, .inl rfl, rfl⟩
  · exact .inl ⟨rfl, '\x27', inner, .inr rfl, rfl⟩
  · exact .inr ⟨command, spaces, first, rest, by simp, isCommand, areSpaces, solid,
      by simp [Nat.add_assoc]⟩

/-- A name of the table in any case that ends a word, at the start of the text or behind white
space, with an at sign in front or without. -/
theorem of_takes_keyword (takes : keyword.Takes before taken behind token) :
    ∃ space sign name, taken = space ++ (sign ++ name) ∧
      (before = [] ∧ space = [] ∨ ∃ c, isSpace c = true ∧ space = [c]) ∧
      (sign = [] ∨ sign = ['@']) ∧ name.map Unicode.foldToAscii ∈ Keyword.names ∧
      Text.BordersWord (before ++ taken) behind ∧
      token = some ⟨(before ++ space).byteLen, (before ++ taken).byteLen⟩ := by
  simp only [keyword, ↓Char.isValue, takes_append, takes_orElse, takes_textStart, takes_one,
    takes_token, takes_maybe, takes_char, List.append_assoc, takes_anyOf, List.mem_map,
    exists_exists_and_eq_and, takes_word, ↓existsAndEq, true_and, exists_and_left, and_true,
    Option.or_none, Text.byteLen_append, Option.or_some, takes_wordBoundary, List.append_nil,
    exists_eq_left'] at takes
  rcases takes with ⟨space, spaceToken, _, sign, name, ⟨rfl, isLead, isSign, isName⟩, ends, rfl⟩
  have areSigns : sign = [] ∨ sign = ['@'] := by
    rcases isSign with ⟨rfl, _⟩ | ⟨rfl, _⟩ <;> simp
  rcases isLead with ⟨rfl, rfl, rfl⟩ | ⟨c, isSpace, rfl, rfl⟩
  · exact ⟨[], sign, name, rfl, .inl ⟨rfl, rfl⟩, areSigns, isName, by simpa using ends, by simp⟩
  · exact ⟨[c], sign, name, rfl, .inr ⟨c, isSpace, rfl⟩, areSigns, isName, by simpa using ends,
      by simp⟩

/-- A name of the table that ends a word is taken at the start of the text and behind white
space. -/
theorem takes_keyword {space name : Text}
    (isLead : before = [] ∧ space = [] ∨ ∃ c, isSpace c = true ∧ space = [c])
    (isName : name.map Unicode.foldToAscii ∈ Keyword.names)
    (ends : Text.BordersWord (before ++ (space ++ name)) behind) :
    keyword.Takes before (space ++ name) behind
      (some ⟨(before ++ space).byteLen, (before ++ (space ++ name)).byteLen⟩) := by
  simp only [keyword, takes_append, takes_orElse, takes_textStart, takes_one, takes_token,
    takes_maybe, takes_char, takes_anyOf, takes_wordBoundary]
  refine ⟨space ++ name, [], _, none, by simp, ⟨space, name, none, _, rfl, ?_,
    ⟨⟨none, [], name, none, none, rfl, .inr ⟨rfl, rfl⟩, ?_, rfl⟩, rfl⟩, rfl⟩,
    ⟨ends, rfl, rfl⟩, ?_⟩
  · rcases isLead with ⟨rfl, rfl⟩ | ⟨c, isSpace, rfl⟩
    · exact .inl ⟨rfl, rfl, rfl⟩
    · exact .inr ⟨c, isSpace, rfl, rfl⟩
  · exact ⟨_, List.mem_map_of_mem isName, takes_word.mpr ⟨rfl, rfl⟩⟩
  · simp

/-- The characters that make an operator. -/
def operatorChars : List Char := "&|<>!=^".toList

/-- The handles that a redirection may name. -/
def isHandle (c : Char) : Bool := c == '0' || c == '1' || c == '2'

theorem eq_of_isHandle {c : Char} (isOne : isHandle c = true) : c = '0' ∨ c = '1' ∨ c = '2' := by
  simpa [isHandle, or_assoc] using isOne

theorem isSolid_of_isHandle {c : Char} (isOne : isHandle c = true) : isSolid c = true := by
  rcases eq_of_isHandle isOne with rfl | rfl | rfl <;> rfl

/-- The operators that do not redirect output. -/
def plainOperators : List Text := ["&", "&&", "|", "||", "<", "!", "=", "^"].map String.toList

/-- One arrow or two, with a handle in front or without one. -/
def IsRedirection (text : Text) : Prop :=
  ∃ handle more, (handle = [] ∨ ∃ c, isHandle c = true ∧ handle = [c]) ∧
    (more = [] ∨ more = ['>']) ∧ text = handle ++ '>' :: more

/-- A text that is one operator. -/
def IsOperator (text : Text) : Prop := text ∈ plainOperators ∨ IsRedirection text

/-- One arrow or two, preferably two, with a handle in front if there is one. -/
def redirection : Pattern := maybe (one isHandle) ++ char '>' ++ maybe (char '>')

theorem operator_eq :
    operator = (literal "&&".toList <|> char '&' <|> literal "||".toList <|> char '|' <|>
      redirection <|> char '<' <|> char '!' <|> char '=' <|> char '^') := rfl

theorem takes_redirection :
    redirection.Takes before taken behind token ↔ IsRedirection taken ∧ token = none := by
  simp only [redirection, takes_append, takes_maybe, takes_one, takes_char]
  constructor
  · rintro ⟨_, more, _, _, rfl, ⟨handle, _, _, _, rfl, isHandle, ⟨rfl, rfl⟩, rfl⟩, isMore, rfl⟩
    refine ⟨⟨handle, more, ?_, ?_, by simp⟩, ?_⟩
    · rcases isHandle with ⟨c, passes, rfl, _⟩ | ⟨rfl, _⟩
      · exact .inr ⟨c, passes, rfl⟩
      · exact .inl rfl
    · rcases isMore with ⟨rfl, _⟩ | ⟨rfl, _⟩ <;> simp
    · rcases isHandle with ⟨_, _, _, rfl⟩ | ⟨_, rfl⟩ <;>
        rcases isMore with ⟨_, rfl⟩ | ⟨_, rfl⟩ <;> rfl
  · rintro ⟨⟨handle, more, isHandle, isMore, rfl⟩, rfl⟩
    refine ⟨handle ++ ['>'], more, none, none, by simp, ⟨handle, ['>'], none, none, rfl, ?_,
      ⟨rfl, rfl⟩, rfl⟩, ?_, rfl⟩
    · rcases isHandle with rfl | ⟨c, passes, rfl⟩
      · exact .inr ⟨rfl, rfl⟩
      · exact .inl ⟨c, passes, rfl, rfl⟩
    · rcases isMore with rfl | rfl
      · exact .inr ⟨rfl, rfl⟩
      · exact .inl ⟨rfl, rfl⟩

theorem takes_operator :
    operator.Takes before taken behind token ↔ IsOperator taken ∧ token = none := by
  simp only [operator_eq, takes_orElse, takes_literal, takes_char, takes_redirection, IsOperator,
    plainOperators, ← or_and_right, List.map_cons, List.map_nil, List.mem_cons, List.not_mem_nil,
    or_false]
  apply and_congr_left
  intro _
  simp only [String.reduceToList]
  tauto

/-- An operator has a character that makes operators, and no white space; all of it is the token. -/
theorem of_takes_operator (takes : operator.Takes before taken behind token) :
    token = none ∧ (∃ c ∈ taken, operatorChars.contains c = true) ∧
      ∀ c ∈ taken, isSolid c = true := by
  obtain ⟨isOperator, rfl⟩ := takes_operator.mp takes
  refine ⟨rfl, ?_⟩
  rcases isOperator with isPlain | ⟨handle, more, areHandles, isMore, rfl⟩
  · have areOperators : ∀ text ∈ plainOperators,
        text.any operatorChars.contains = true ∧ text.all isSolid = true := by
      decide
    obtain ⟨hasOperator, areSolid⟩ := areOperators taken isPlain
    exact ⟨List.any_eq_true.mp hasOperator, List.all_eq_true.mp areSolid⟩
  · refine ⟨⟨'>', by simp, by decide⟩, List.forall_mem_append.mpr ⟨?_, ?_⟩⟩
    · rcases areHandles with rfl | ⟨c, isOne, rfl⟩
      · simp
      · simpa using isSolid_of_isHandle isOne
    · have areSolid : ∀ c ∈ ">>".toList, isSolid c = true := List.all_eq_true.mp (by decide)
      rcases isMore with rfl | rfl
      · exact fun c isIn => areSolid c (List.mem_cons_of_mem _ isIn)
      · exact areSolid

/-- What a switch begins with. -/
def switchMarks : List Text := ["/", "-", "--"].map String.toList

/-- A slash, or a dash and preferably another one. -/
def switchMark : Pattern := char '/' <|> char '-' ++ maybe (char '-')

theorem parameter_eq :
    parameter = one isSpace ++ Pattern.token (switchMark ++ oneOrMore Unicode.isWordChar) := rfl

theorem takes_switchMark :
    switchMark.Takes before taken behind token ↔ taken ∈ switchMarks ∧ token = none := by
  simp only [switchMark, takes_orElse, takes_append, takes_maybe, takes_char]
  constructor
  · rintro (⟨rfl, rfl⟩ | ⟨_, _, _, _, rfl, ⟨rfl, rfl⟩, ⟨rfl, rfl⟩ | ⟨rfl, rfl⟩, rfl⟩)
    all_goals exact ⟨by decide, rfl⟩
  · rintro ⟨isMark, rfl⟩
    simp only [switchMarks, List.map_cons, List.map_nil, List.mem_cons, List.not_mem_nil,
      or_false] at isMark
    rcases isMark with rfl | rfl | rfl
    · exact .inl ⟨rfl, rfl⟩
    · exact .inr ⟨['-'], [], none, none, rfl, ⟨rfl, rfl⟩, .inr ⟨rfl, rfl⟩, rfl⟩
    · exact .inr ⟨['-'], ['-'], none, none, rfl, ⟨rfl, rfl⟩, .inl ⟨rfl, rfl⟩, rfl⟩

theorem takes_parameter :
    parameter.Takes before taken behind token ↔
      ∃ space mark word, taken = space :: (mark ++ word) ∧ isSpace space = true ∧
        mark ∈ switchMarks ∧ word ≠ [] ∧ (∀ c ∈ word, Unicode.isWordChar c = true) ∧
        token = some ⟨(before ++ [space]).byteLen, (before ++ taken).byteLen⟩ := by
  simp only [parameter_eq, takes_append, takes_one, takes_token, takes_switchMark, takes_oneOrMore]
  constructor
  · rintro ⟨_, _, _, _, rfl, ⟨space, isSpace, rfl, rfl⟩,
      ⟨⟨_, mark, word, _, _, rfl, ⟨isMark, rfl⟩, ⟨nonempty, isWord, rfl⟩, rfl⟩, rfl⟩, rfl⟩
    exact ⟨space, mark, word, rfl, isSpace, isMark, nonempty, isWord, by simp⟩
  · rintro ⟨space, mark, word, rfl, isSpace, isMark, nonempty, isWord, rfl⟩
    exact ⟨[space], mark ++ word, none, _, rfl, ⟨space, isSpace, rfl, rfl⟩,
      ⟨⟨none, mark, word, none, none, rfl, ⟨isMark, rfl⟩, ⟨nonempty, isWord, rfl⟩, rfl⟩, rfl⟩,
      by simp⟩

/-- White space, a slash or dashes, and a word. -/
theorem of_takes_parameter (takes : parameter.Takes before taken behind token) :
    ∃ space dashes name, taken = space :: (dashes ++ name) ∧ isSpace space = true ∧
      dashes ≠ [] ∧ (∀ c ∈ dashes, c = '/' ∨ c = '-') ∧
      (∀ c ∈ name, Unicode.isWordChar c = true) ∧
      token = some ⟨(before ++ [space]).byteLen, (before ++ taken).byteLen⟩ := by
  have areDashes : ∀ mark ∈ switchMarks,
      mark ≠ [] ∧ mark.all (fun c => c = '/' ∨ c = '-') = true := by
    decide
  rcases takes_parameter.mp takes with
    ⟨space, mark, word, rfl, isSpace, isMark, _, isWord, range⟩
  obtain ⟨nonempty, isDash⟩ := areDashes mark isMark
  exact ⟨space, mark, word, rfl, isSpace, nonempty, by simpa using isDash, isWord, range⟩

/-- A label at the start of the text, or a command, a gap and the target of a jump. -/
theorem of_takes_label (takes : label.Takes before taken behind token) :
    (before = [] ∧ ∃ spaces name, taken = spaces ++ ':' :: name ∧
        (∀ c ∈ spaces, isSpace c = true) ∧
        token = some ⟨(before ++ spaces).byteLen, (before ++ taken).byteLen⟩) ∨
      ∃ command gap name, taken = command ++ gap ++ name ∧
        command.map Unicode.foldToAscii = "goto".toList ∧
        (∀ c ∈ gap, isSpace c = true ∨ c = ':') ∧ name ≠ [] ∧
        (∀ c ∈ name, isLabelChar c = true) ∧
        token = some ⟨(before ++ (command ++ gap)).byteLen, (before ++ taken).byteLen⟩ := by
  simp only [label, ↓Char.isValue, String.reduceToList, takes_orElse, takes_append, takes_textStart,
    takes_many, exists_and_left, ↓existsAndEq, and_true, Option.or_none, List.nil_append,
    exists_eq_left', takes_token, takes_char, List.append_assoc, takes_oneOrMore, ne_eq,
    List.cons_append, true_and, Text.byteLen_append, Option.or_some, Option.getD_none,
    Text.byteLen_cons, takes_wordBoundary, takes_word, Option.none_or, exists_eq_right'] at takes
  rcases takes with ⟨spaces, name, rfl, ⟨rfl, areSpaces⟩, _, rfl⟩ |
    ⟨name, gapToken, command, gap, rfl, ⟨⟨_, isCommand⟩, isGap⟩, ⟨isName, areNameChars⟩, rfl⟩
  · exact .inl ⟨rfl, spaces, name, rfl, areSpaces, by simp⟩
  · have areGap : (∀ c ∈ gap, isSpace c = true ∨ c = ':') ∧ gapToken = none := by
      rcases isGap with ⟨spaces, rfl, areSpaces, rfl⟩ | ⟨_, areSpaces, rfl⟩
      · refine ⟨?_, rfl⟩
        intro c isIn
        rcases List.mem_append.mp isIn with isIn | isIn
        · exact .inl (areSpaces c isIn)
        · exact .inr (List.mem_singleton.mp isIn)
      · exact ⟨fun c isIn => .inl (areSpaces c isIn), rfl⟩
    exact .inr ⟨command, gap, name, by simp, isCommand, areGap.1, isName, areNameChars,
      by simp [areGap.2, Nat.add_assoc]⟩

/-- What is marked as a variable name has no white space in it. -/
theorem of_takes_identifier (takes : identifier.Takes before taken behind token) :
    ∃ context name rest, taken = context ++ name ++ rest ∧ (∀ c ∈ name, isSolid c = true) ∧
      token = some ⟨(before ++ context).byteLen, (before ++ context ++ name).byteLen⟩ := by
  rcases takes_orElse.mp takes with isTarget | isReference
  · simp only [String.reduceToList, ↓Char.isValue, letterOf, takes_append, takes_wordBoundary,
      takes_word, exists_and_left, ↓existsAndEq, and_true, Option.or_none, List.nil_append,
      exists_eq_left', takes_oneOrMore, ne_eq, takes_maybe, takes_char, List.append_assoc,
      takes_one, exists_and_right, List.cons_append, true_and, Option.none_or, exists_eq_right',
      takes_token, Text.byteLen_append, Option.or_some, Option.getD_or, takes_many] at isTarget
    rcases isTarget with ⟨gap, name, quote, switchToken, switch, command, spaces, rfl, quoteToken,
      ⟨⟨⟨⟨_, isSwitch⟩, isQuote⟩, _, areTargetChars⟩, _⟩, rfl⟩
    have noSwitchToken : switchToken = none := by
      rcases isSwitch with ⟨_, _, _, _, _, rfl⟩ | ⟨_, rfl⟩ <;> rfl
    have noQuoteToken : quoteToken = none := by
      rcases isQuote with ⟨_, rfl⟩ | ⟨_, rfl⟩ <;> rfl
    refine ⟨command ++ spaces ++ switch ++ quote, name, gap ++ ['='], by simp, ?_, ?_⟩
    · intro c isIn
      have passes := areTargetChars c isIn
      simp only [isTargetChar, Bool.and_eq_true] at passes
      exact passes.1.1
    · simp [noSwitchToken, noQuoteToken, Nat.add_assoc]
  · -- The whole match is marked.
    have solid : (∀ c ∈ taken, isSolid c = true) ∧
        token = some ⟨before.byteLen, (before ++ taken).byteLen⟩ := by
      rcases takes_orElse.mp isReference with isVariable | isArgument
      · simp only [takes_token, takes_append, takes_char, takes_oneOrMore, exists_and_left,
          ↓existsAndEq, and_true, Option.or_none, List.cons_append, List.nil_append, true_and,
          exists_and_right] at isVariable
        rcases isVariable with ⟨⟨name, rfl, _, areReferenceChars⟩, rfl⟩
        have percent : ∀ c ∈ ['%'], isSolid c = true := List.all_eq_true.mp (by decide)
        refine ⟨List.forall_mem_cons.mpr ⟨rfl, List.forall_mem_append.mpr ⟨?_, percent⟩⟩, rfl⟩
        intro c isIn
        have passes := areReferenceChars c isIn
        rw [isReferenceChar, Bool.and_eq_true] at passes
        exact passes.1
      · simp only [takes_token, takes_append, takes_literal, takes_oneOrMore, exists_and_left,
          ↓existsAndEq, and_true, Option.or_none, true_and, takes_one, exists_and_right]
          at isArgument
        rcases isArgument with ⟨⟨digit, letters, rfl, ⟨_, areLetters⟩, isDigit⟩, rfl⟩
        have opening : ∀ c ∈ "%~".toList, isSolid c = true := List.all_eq_true.mp (by decide)
        refine ⟨List.forall_mem_append.mpr ⟨List.forall_mem_append.mpr ⟨opening, ?_⟩, ?_⟩, rfl⟩
        · intro c isIn
          have areLabelChars : "fdpnxsatz".toList.all isLabelChar = true := by decide
          apply isSolid_of_isLabelChar
          apply isLabelChar_of_foldToAscii
          exact List.all_eq_true.mp areLabelChars _ (List.contains_iff_mem.mp (areLetters c isIn))
        · intro c isIn
          have isWord : Unicode.isWordChar digit = true := by simp [Unicode.isWordChar, isDigit]
          rw [List.mem_singleton.mp isIn, isSolid, Unicode.isWhiteSpace_of_isWordChar isWord]
          rfl
    exact ⟨[], taken, [], by simp, solid.1, by simpa using solid.2⟩

/-- What begins a remark has two characters that are no white space. -/
theorem of_takes_comment (takes : comment.Takes before taken behind token) :
    (before = [] ∧ ∃ spaces sign opening rest, taken = spaces ++ (sign ++ opening ++ rest) ∧
        (∀ c ∈ spaces, isSpace c = true) ∧ (sign = [] ∨ sign = ['@']) ∧
        (opening.map Unicode.foldToAscii = "rem".toList ∨ opening = "::".toList) ∧
        token = some ⟨(before ++ spaces).byteLen, (before ++ taken).byteLen⟩) ∨
      ∃ first spaces rest, taken = first :: spaces ++ '&' :: rest ∧ isSolid first = true ∧
        (∀ c ∈ spaces, isSpace c = true) ∧
        token = some ⟨(before ++ first :: spaces).byteLen, (before ++ taken).byteLen⟩ := by
  simp only [comment, ↓Char.isValue, remark, String.reduceToList, lineRest, takes_orElse,
    takes_append, takes_textStart, takes_many, exists_and_left, ↓existsAndEq, and_true,
    Option.or_none, List.nil_append, exists_eq_left', takes_token, takes_maybe, takes_char,
    List.append_assoc, takes_word, takes_wordBoundary, List.append_nil, takes_literal, true_and,
    exists_and_right, Text.byteLen_append, Option.or_some, Option.getD_none, takes_one,
    List.cons_append, Option.none_or, exists_eq_right', Text.byteLen_cons] at takes
  rcases takes with
    ⟨spaces, rest, sign, opening, rfl, ⟨rfl, areSpaces⟩, ⟨⟨isSign, isRemark⟩, _⟩, rfl⟩ |
    ⟨_, rest, opening, gap, spaces, first, rfl, ⟨solid, areSpaces⟩, _, rfl⟩
  · refine .inl ⟨rfl, spaces, sign, opening, rest, by simp, areSpaces, ?_, ?_, by simp⟩
    · rcases isSign with ⟨_, ⟨rfl, _⟩ | ⟨rfl, _⟩⟩ <;> simp
    rcases isRemark with ⟨_, ⟨isCommand, _⟩ | ⟨areColons, _⟩⟩
    · exact .inl isCommand
    · exact .inr areColons
  · exact .inr ⟨first, spaces, gap ++ (opening ++ rest), by simp, solid, areSpaces,
      by simp [Nat.add_assoc]⟩

/-- A text has only one place at which its first solid character follows white space. -/
theorem solid_cut_unique {spaces solid spaces' solid' : Text}
    (same : spaces ++ solid = spaces' ++ solid')
    (areSpaces : ∀ c ∈ spaces, Unicode.isWhiteSpace c = true)
    (isSolid : ∃ c ∈ solid.head?, Unicode.isWhiteSpace c = false)
    (areSpaces' : ∀ c ∈ spaces', Unicode.isWhiteSpace c = true)
    (isSolid' : ∃ c ∈ solid'.head?, Unicode.isWhiteSpace c = false) :
    spaces = spaces' ∧ solid = solid' := by
  have fail {spaces : Text} (areSpaces : ∀ c ∈ spaces, Unicode.isWhiteSpace c = true) :
      ∀ c ∈ spaces, Grammar.isSolid c = false := by
    intro c isIn
    simp [Grammar.isSolid, areSpaces c isIn]
  have passes {solid : Text} (isSolid : ∃ c ∈ solid.head?, Unicode.isWhiteSpace c = false) :
      ∀ c ∈ solid.head?, Grammar.isSolid c = true := by
    rcases isSolid with ⟨first, isFirst, noSpace⟩
    intro c isHead
    obtain rfl := Option.mem_unique isFirst isHead
    simp [Grammar.isSolid, noSpace]
  exact Text.cut_inj same (fail areSpaces) (fail areSpaces') (passes isSolid) (passes isSolid')

/-! ## What every match contains -/

theorem length_of_map {word letters : Text} (folds : word.map Unicode.foldToAscii = letters) :
    word.length = letters.length := by
  rw [← folds, List.length_map]

theorem countP_of_map {test : Char → Bool} {word letters : Text}
    (folds : word.map Unicode.foldToAscii = letters) (pass : ∀ c ∈ word, test c = true) :
    word.countP test = letters.length := by
  rw [List.countP_eq_length.mpr pass, length_of_map folds]

theorem isLabelChar_of_mem_names {name : Text} (isName : name ∈ Keyword.names) :
    name ≠ [] ∧ name.all isLabelChar = true := by
  have areNames : ∀ name ∈ Keyword.names, name ≠ [] ∧ name.all isLabelChar = true := by decide
  exact areNames name isName

theorem ne_nil_of_mem_names {word : Text} (isName : word.map Unicode.foldToAscii ∈ Keyword.names) :
    word ≠ [] := by
  have nonempty := (isLabelChar_of_mem_names isName).1
  rwa [Ne, List.map_eq_nil_iff] at nonempty

theorem isLabelChar_of_command {command letters : Text}
    (isCommand : command.map Unicode.foldToAscii = letters)
    (areLabelChars : letters.all isLabelChar = true) :
    command.countP isLabelChar = letters.length ∧ command.countP isSolid = letters.length := by
  have isIn := isLabelChar_of_map isCommand areLabelChars
  exact ⟨countP_of_map isCommand isIn,
    countP_of_map isCommand fun c mem => isSolid_of_isLabelChar (isIn c mem)⟩

/-- A remark takes two characters that are no white space. -/
theorem two_le_countP_of_takes_comment (takes : comment.Takes before taken behind token) :
    2 ≤ taken.countP isSolid := by
  rcases of_takes_comment takes with
    ⟨_, spaces, sign, opening, rest, rfl, _, _, isRemark, _⟩ | ⟨first, spaces, rest, rfl, solid, _⟩
  · have isOpening : 2 ≤ opening.countP isSolid := by
      rcases isRemark with isCommand | rfl
      · rw [(isLabelChar_of_command isCommand (by decide)).2]
        decide
      · decide
    simp only [List.countP_append]
    omega
  · have ampersand : isSolid '&' = true := rfl
    rw [List.countP_append, List.countP_cons_of_pos solid, List.countP_cons_of_pos ampersand]
    omega

/-- A string holds a quote, or a command of four letters and something behind it. -/
theorem quote_or_five_le_of_takes_string (takes : string.Takes before taken behind token) :
    (∃ quote ∈ taken, quote = '"' ∨ quote = '\x27') ∨ 5 ≤ taken.countP isSolid := by
  rcases of_takes_string takes with
    ⟨_, quote, inner, isQuote, rfl⟩ | ⟨command, spaces, first, rest, rfl, isCommand, _, solid, _⟩
  · exact .inl ⟨quote, by simp, isQuote⟩
  · right
    have letters := (isLabelChar_of_command isCommand (by decide)).2
    rw [List.countP_append, List.countP_append, List.countP_cons_of_pos solid, letters]
    simp
    omega

/-- A label at the start of a text begins with white space or a colon; a jump takes a command of
four letters and a target behind it. -/
theorem colon_or_five_le_of_takes_label (takes : label.Takes before taken behind token) :
    (before = [] ∧ ∃ c, taken.head? = some c ∧ (isSpace c = true ∨ c = ':')) ∨
      5 ≤ taken.countP isLabelChar := by
  rcases of_takes_label takes with
    ⟨atStart, spaces, name, rfl, areSpaces, _⟩ |
    ⟨command, gap, name, rfl, isCommand, _, nonempty, areLabelChars, _⟩
  · refine .inl ⟨atStart, ?_⟩
    cases spaces with
    | nil => exact ⟨':', rfl, .inr rfl⟩
    | cons c others => exact ⟨c, rfl, .inl (areSpaces c List.mem_cons_self)⟩
  · right
    have letters := (isLabelChar_of_command isCommand (by decide)).1
    have target := List.length_pos_iff.mpr nonempty
    rw [List.countP_append, List.countP_append, letters, List.countP_eq_length.mpr areLabelChars]
    simp
    omega

/-- Neither a keyword nor a switch takes an ampersand. -/
theorem not_takes_ampersand {category : Category}
    (isWord : category = .keyword ∨ category = .parameter)
    (takes : (pattern category).Takes before taken behind token) : '&' ∉ taken := by
  rcases isWord with rfl | rfl
  · rcases of_takes_keyword takes with ⟨space, sign, name, rfl, isLead, isSign, isName, _⟩
    simp only [List.mem_append, not_or]
    refine ⟨?_, ?_, fun isIn => ?_⟩
    · rcases isLead with ⟨_, rfl⟩ | ⟨c, isSpace, rfl⟩
      · exact List.not_mem_nil
      · rw [List.mem_singleton]
        rintro rfl
        exact absurd isSpace (by decide)
    · rcases isSign with rfl | rfl <;> decide
    · have noAmpersand : ∀ name ∈ Keyword.names, '&' ∉ name := by decide
      apply noAmpersand _ isName
      exact List.mem_map.mpr ⟨'&', isIn, rfl⟩
  · rcases of_takes_parameter takes with
      ⟨space, dashes, name, rfl, isSpace, _, areDashes, isWord, _⟩
    simp only [List.mem_cons, List.mem_append, not_or]
    refine ⟨?_, fun isIn => ?_, fun isIn => ?_⟩
    · rintro rfl
      exact absurd isSpace (by decide)
    · exact absurd (areDashes _ isIn) (by decide)
    · exact absurd (isWord _ isIn) (by decide)

/-- Every match takes something that is no white space. -/
theorem exists_solid_of_takes {category : Category} (notVariable : category ≠ .identifier)
    (takes : (pattern category).Takes before taken behind token) :
    ∃ c ∈ taken, isSolid c = true := by
  cases category with
  | comment =>
      have several := two_le_countP_of_takes_comment takes
      exact List.countP_pos_iff.mp (by omega)
  | string =>
      rcases of_takes_string takes with
        ⟨_, quote, inner, isQuote, rfl⟩ | ⟨command, spaces, first, rest, rfl, _, _, solid, _⟩
      · refine ⟨quote, by simp, ?_⟩
        rcases isQuote with rfl | rfl <;> rfl
      · exact ⟨first, by simp, solid⟩
  | keyword =>
      rcases of_takes_keyword takes with ⟨space, sign, name, rfl, _, _, isName, _⟩
      have areLabelChars := (isLabelChar_of_mem_names isName).2
      rcases List.exists_mem_of_ne_nil name (ne_nil_of_mem_names isName) with ⟨c, isIn⟩
      exact ⟨c, by simp [isIn],
        isSolid_of_isLabelChar (isLabelChar_of_map rfl areLabelChars c isIn)⟩
  | operator =>
      rcases of_takes_operator takes with ⟨_, ⟨c, isIn, _⟩, areSolid⟩
      exact ⟨c, isIn, areSolid c isIn⟩
  | parameter =>
      rcases of_takes_parameter takes with ⟨space, dashes, name, rfl, _, nonempty, areDashes, _⟩
      rcases List.exists_mem_of_ne_nil dashes nonempty with ⟨c, isIn⟩
      refine ⟨c, by simp [isIn], ?_⟩
      rcases areDashes c isIn with rfl | rfl <;> rfl
  | identifier => exact absurd rfl notVariable
  | label =>
      rcases of_takes_label takes with
        ⟨_, spaces, name, rfl, _⟩ | ⟨command, gap, name, rfl, _, _, nonempty, areLabelChars, _⟩
      · exact ⟨':', by simp, rfl⟩
      · rcases List.exists_mem_of_ne_nil name nonempty with ⟨c, isIn⟩
        exact ⟨c, by simp [isIn], isSolid_of_isLabelChar (areLabelChars c isIn)⟩

/-! ## Where tokens begin and end -/

/-- What is reported reaches from behind some context to the end of the match. -/
theorem exists_reported_of_takes {category : Category} (notVariable : category ≠ .identifier)
    (takes : (pattern category).Takes before taken behind token) :
    ∃ context body, taken = context ++ body ∧ body ≠ [] ∧
      reported before taken token =
        ⟨(before ++ context).byteLen, (before ++ taken).byteLen⟩ := by
  cases category with
  | comment =>
      rcases of_takes_comment takes with
        ⟨_, spaces, sign, opening, rest, rfl, _, _, isRemark, rfl⟩ |
        ⟨first, spaces, rest, rfl, _, _, rfl⟩
      · refine ⟨spaces, _, rfl, ?_, rfl⟩
        rcases isRemark with isCommand | rfl
        · rintro nothing
          simp only [List.append_eq_nil_iff] at nothing
          rw [nothing.1.2] at isCommand
          exact absurd isCommand (by decide)
        · simp
      · exact ⟨_, _, rfl, by simp, rfl⟩
  | string =>
      rcases of_takes_string takes with
        ⟨rfl, quote, inner, _, rfl⟩ | ⟨command, spaces, first, rest, rfl, _, _, _, rfl⟩
      · exact ⟨[], _, rfl, by simp, by rw [List.append_nil]; rfl⟩
      · exact ⟨_, _, rfl, by simp, rfl⟩
  | keyword =>
      rcases of_takes_keyword takes with ⟨space, sign, name, rfl, _, _, isName, _, rfl⟩
      exact ⟨_, _, rfl, by simp [ne_nil_of_mem_names isName], rfl⟩
  | operator =>
      rcases of_takes_operator takes with ⟨rfl, ⟨c, isIn, _⟩, _⟩
      exact ⟨[], _, rfl, List.ne_nil_of_mem isIn, by rw [List.append_nil]; rfl⟩
  | parameter =>
      rcases of_takes_parameter takes with ⟨space, dashes, name, rfl, _, nonempty, _, _, rfl⟩
      exact ⟨[space], _, rfl, by simp [nonempty], rfl⟩
  | identifier => exact absurd rfl notVariable
  | label =>
      rcases of_takes_label takes with
        ⟨_, spaces, name, rfl, _, rfl⟩ | ⟨command, gap, name, rfl, _, _, nonempty, _, rfl⟩
      · exact ⟨_, _, rfl, by simp, rfl⟩
      · exact ⟨_, _, rfl, nonempty, rfl⟩

theorem reportsToEnd_pattern {category : Category} (notVariable : category ≠ .identifier) :
    (pattern category).ReportsToEnd := by
  intro before taken behind token takes
  rcases exists_reported_of_takes notVariable takes with ⟨context, body, rfl, nonempty, same⟩
  have positive := Text.byteLen_pos nonempty
  rw [same]
  refine ⟨?_, rfl⟩
  simp only [Text.byteLen_append]
  omega

end BatchLens.Grammar
