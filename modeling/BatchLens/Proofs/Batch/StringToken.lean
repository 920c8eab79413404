import BatchLens.Proofs.Batch.WholeKeyword

/-!
# Quotes and echoes

A string is a run between two quotes of one kind, or the rest of the line behind a command that
echoes it. The search for strings takes them from left to right, and each can hide what would begin
another one. Nothing is lost otherwise (`findAll_string`): neither a quote nor the first letter of
the command stands in the context of a match behind its first character, so a match that reaches
over such a place has it in its token.
-/

namespace BatchLens

open Pattern

namespace Grammar

/-- The two kinds of quotes. -/
def IsQuote (c : Char) : Prop := c = '"' ∨ c = '\x27'

/-- A run between two quotes of one kind with no such quote inside. -/
def IsQuoted (text : Text) : Prop :=
  ∃ quote inner, IsQuote quote ∧ quote ∉ inner ∧ text = quote :: (inner ++ [quote])

/-- A text cut around the command that echoes its line, which begins a word, and around the white
space behind it, which something solid follows. -/
structure Echoes (before command spaces behind : Text) : Prop where
  begins : ∀ c ∈ before.getLast?, Unicode.isWordChar c = false
  isCommand : Text.sameIgnoringAsciiCase command "echo".toList = true
  nonempty : spaces ≠ []
  areSpaces : ∀ c ∈ spaces, Unicode.isWhiteSpace c = true
  solid : ∃ c ∈ behind.head?, Unicode.isWhiteSpace c = false

/-- A text cut at the end of a line. -/
structure EndsLine (rest behind : Text) : Prop where
  inLine : '\n' ∉ rest
  ends : ∀ c ∈ behind.head?, c = '\n'

/-- A text cut around a string, and around the context that makes it one. -/
inductive IsString (before context body behind : Text) : Prop
  | quoted (noContext : context = []) (isQuoted : IsQuoted body)
  | echoed {command spaces : Text} (parts : context = command ++ spaces)
      (echoes : Echoes before command spaces (body ++ behind)) (endsLine : EndsLine body behind)

/-! ## The parts of the pattern -/

/-- A run between two quotes. -/
def quoted (quote : Char) : Pattern := char quote ++ many (· != quote) ++ char quote

/-- The rest of the line behind the command that echoes it. -/
def echoed : Pattern :=
  wordBoundary ++ word "echo".toList ++ oneOrMore isSpace ++ token (one isSolid ++ lineRest)

theorem string_eq : string = (quoted '"' <|> quoted '\x27' <|> echoed) := rfl

variable {before taken context body behind command spaces : Text} {token : Option ByteRange}

theorem IsQuote.isWordChar_eq_false {c : Char} (isQuote : IsQuote c) :
    Unicode.isWordChar c = false := by
  rcases isQuote with rfl | rfl <;> decide +kernel

/-! ## The command -/

theorem folds_echo_iff :
    command.map Unicode.foldToAscii = "echo".toList ↔
      Text.sameIgnoringAsciiCase command "echo".toList = true := by
  rw [Unicode.map_foldToAscii_eq_iff (by simp)]
  exact beq_iff_eq.symm

namespace Echoes

theorem folds (echoes : Echoes before command spaces behind) :
    command.map Unicode.foldToAscii = "echo".toList :=
  folds_echo_iff.mpr echoes.isCommand

/-- The first letter of the command is none of its other letters. -/
theorem exists_first (echoes : Echoes before command spaces behind) :
    ∃ first others, command = first :: others ∧ Unicode.foldToAscii first = 'e' ∧
      ∀ c ∈ others, Unicode.foldToAscii c ≠ 'e' := by
  have folds : command.map Unicode.foldToAscii = 'e' :: ['c', 'h', 'o'] := echoes.folds
  rcases List.map_eq_cons_iff.mp folds with ⟨first, others, rfl, isFirst, areOthers⟩
  refine ⟨first, others, rfl, isFirst, ?_⟩
  intro c isIn isLetter
  have isOther : 'e' ∈ others.map Unicode.foldToAscii := List.mem_map.mpr ⟨c, isIn, isLetter⟩
  rw [areOthers] at isOther
  exact absurd isOther (by decide)

end Echoes

theorem isWordChar_of_echo (isCommand : command.map Unicode.foldToAscii = "echo".toList) :
    ∀ c ∈ command, Unicode.isWordChar c = true := by
  apply Unicode.isWordChar_of_map isCommand
  decide +kernel

theorem bordersWord_iff_begins (isCommand : command.map Unicode.foldToAscii = "echo".toList) :
    Text.BordersWord before (command ++ behind) ↔
      ∀ c ∈ before.getLast?, Unicode.isWordChar c = false := by
  apply Text.bordersWord_iff_of_word_behind
  · rintro rfl
    exact absurd isCommand (by decide)
  · exact isWordChar_of_echo isCommand

/-! ## The two kinds of strings -/

theorem takes_quoted {quote : Char} :
    (quoted quote).Takes before taken behind token ↔
      ∃ inner, quote ∉ inner ∧ taken = quote :: (inner ++ [quote]) ∧ token = none := by
  simp only [quoted, takes_append, takes_char, takes_many, bne_iff_ne, ne_eq]
  constructor
  · rintro ⟨_, _, _, _, rfl, ⟨_, inner, _, _, rfl, ⟨rfl, rfl⟩, ⟨others, rfl⟩, rfl⟩, ⟨rfl, rfl⟩, rfl⟩
    refine ⟨inner, ?_, rfl, rfl⟩
    intro isIn
    exact others quote isIn rfl
  · rintro ⟨inner, notIn, rfl, rfl⟩
    refine ⟨quote :: inner, [quote], none, none, rfl, ⟨[quote], inner, none, none, rfl, ⟨rfl, rfl⟩,
      ⟨?_, rfl⟩, rfl⟩, ⟨rfl, rfl⟩, rfl⟩
    rintro c isIn rfl
    exact notIn isIn

theorem of_takes_echoed (takes : echoed.Takes before taken behind token) :
    ∃ command spaces argument, taken = command ++ spaces ++ argument ∧ '\n' ∉ argument ∧
      Echoes before command spaces (argument ++ behind) ∧
      token = some ⟨(before ++ (command ++ spaces)).byteLen, (before ++ taken).byteLen⟩ := by
  simp only [echoed, lineRest, takes_append, takes_wordBoundary, takes_word, takes_oneOrMore,
    takes_token, takes_one, takes_many] at takes
  rcases takes with ⟨_, _, _, _, rfl, ⟨_, spaces, _, _, rfl,
    ⟨_, command, _, _, rfl, ⟨begins, rfl, rfl⟩, ⟨isCommand, rfl⟩, rfl⟩,
    ⟨nonempty, areSpaces, rfl⟩, rfl⟩, ⟨⟨_, _, rest, _, _, rfl, ⟨first, solid, rfl, rfl⟩,
      ⟨inLine, rfl⟩, rfl⟩, rfl⟩, rfl⟩
  rw [List.append_assoc] at begins
  have isFirst : Unicode.isWhiteSpace first = false := by simpa [isSolid] using solid
  refine ⟨command, spaces, first :: rest, rfl, ?_,
    ⟨?_, folds_echo_iff.mp isCommand, nonempty, areSpaces, ⟨first, rfl, isFirst⟩⟩, by simp⟩
  · rw [List.mem_cons, not_or]
    constructor
    · rintro rfl
      exact absurd isFirst (by decide)
    · intro isIn
      exact absurd (inLine _ isIn) (by decide)
  · exact (bordersWord_iff_begins isCommand).mp begins

theorem Echoes.exists_takes (echoes : Echoes before command spaces behind) :
    ∃ first rest token, behind = first :: rest ∧
      echoed.Takes before (command ++ spaces ++ [first]) rest token := by
  rcases echoes.solid with ⟨first, isHead, solid⟩
  rcases List.head?_eq_some_iff.mp isHead with ⟨rest, rfl⟩
  have begins : Text.BordersWord before (command ++ (spaces ++ (first :: rest))) :=
    (bordersWord_iff_begins echoes.folds).mpr echoes.begins
  refine ⟨first, rest, _, rfl, takes_append.mpr ⟨command ++ spaces, [first], none, _, rfl, ?_,
    takes_token.mpr ⟨⟨none, ?_⟩, rfl⟩, rfl⟩⟩
  · apply takes_append.mpr
    refine ⟨command, spaces, none, none, rfl, takes_append.mpr ?_,
      takes_oneOrMore.mpr ⟨echoes.nonempty, echoes.areSpaces, rfl⟩, rfl⟩
    refine ⟨[], command, none, none, rfl, takes_wordBoundary.mpr ⟨begins, rfl, rfl⟩, ?_, rfl⟩
    exact takes_word.mpr ⟨echoes.folds, rfl⟩
  · apply takes_append.mpr
    refine ⟨[first], [], none, none, rfl, takes_one.mpr ⟨first, ?_, rfl, rfl⟩,
      takes_many.mpr ⟨by simp, rfl⟩, rfl⟩
    simp [isSolid, solid]

theorem goesOnWhile_echoed : echoed.GoesOnWhile isInLine :=
  (goesOnWhile_many isInLine).append.marked.append

theorem isString_of_takes_quoted {quote : Char} (isQuote : IsQuote quote)
    (takes : (quoted quote).Takes before taken behind token) :
    IsString before [] taken behind ∧
      reported before taken token = ⟨before.byteLen, (before ++ taken).byteLen⟩ := by
  rcases takes_quoted.mp takes with ⟨inner, notIn, rfl, rfl⟩
  exact ⟨.quoted rfl ⟨quote, inner, isQuote, notIn, rfl⟩, rfl⟩

/-- What the search takes is a string and its context, and the string is what it reports. -/
theorem exists_isString_of_prefers (prefers : string.Prefers before taken behind token) :
    ∃ context body, taken = context ++ body ∧ IsString before context body behind ∧
      reported before taken token =
        ⟨(before ++ context).byteLen, (before ++ context ++ body).byteLen⟩ := by
  rw [string_eq] at prefers
  rcases prefers.of_orElse with isRun | ⟨_, prefers⟩
  · rcases isString_of_takes_quoted (.inl rfl) isRun.takes with ⟨isString, range⟩
    exact ⟨[], taken, rfl, isString, by simpa using range⟩
  · rcases prefers.of_orElse with isRun | ⟨_, isEchoed⟩
    · rcases isString_of_takes_quoted (.inr rfl) isRun.takes with ⟨isString, range⟩
      exact ⟨[], taken, rfl, isString, by simpa using range⟩
    · rcases of_takes_echoed isEchoed.takes with
        ⟨command, spaces, argument, rfl, inLine, echoes, rfl⟩
      refine ⟨command ++ spaces, argument, rfl, .echoed rfl echoes ⟨inLine, ?_⟩, ?_⟩
      · -- The preferred match does not stop in front of another character of the line.
        intro c isHead
        have stops := goesOnWhile_echoed _ _ isEchoed c isHead
        simpa [isInLine] using stops
      · simp [reported]

/-! ## What stands in the context of a string -/

namespace IsString

theorem body_ne_nil (isString : IsString before context body behind) : body ≠ [] := by
  cases isString with
  | quoted _ isQuoted =>
      rcases isQuoted with ⟨quote, inner, _, _, rfl⟩
      exact List.cons_ne_nil _ _
  | echoed _ echoes endsLine =>
      rintro rfl
      rcases echoes.solid with ⟨c, isHead, solid⟩
      obtain rfl := endsLine.ends c isHead
      exact absurd solid (by decide)

theorem not_isQuote (isString : IsString before context body behind) :
    ∀ c ∈ context, ¬IsQuote c := by
  intro c isIn isQuote
  cases isString with
  | quoted noContext _ => simp [noContext] at isIn
  | echoed parts echoes =>
      rw [parts] at isIn
      rcases List.mem_append.mp isIn with isLetter | isSpace
      · have isWord := isWordChar_of_echo echoes.folds c isLetter
        rw [isQuote.isWordChar_eq_false] at isWord
        exact Bool.noConfusion isWord
      · have space := echoes.areSpaces c isSpace
        rcases isQuote with rfl | rfl <;> exact absurd space (by decide)

theorem foldToAscii_ne (isString : IsString before context body behind) :
    ∀ c ∈ context.tail, Unicode.foldToAscii c ≠ 'e' := by
  intro c isIn
  cases isString with
  | quoted noContext _ => simp [noContext] at isIn
  | echoed parts echoes =>
      rcases echoes.exists_first with ⟨first, others, rfl, _, noneFirst⟩
      rw [parts] at isIn
      rcases List.mem_append.mp isIn with isLetter | space
      · exact noneFirst c isLetter
      · intro isLetter
        have isSpace := echoes.areSpaces c space
        rw [foldToAscii_of_isSpace isSpace] at isLetter
        subst isLetter
        exact absurd isSpace (by decide)

end IsString

/-- The command and the white space behind it are at one place only. -/
theorem Echoes.unique {before' command' spaces' behind' : Text}
    (echoes : Echoes before command spaces behind)
    (echoes' : Echoes before' command' spaces' behind')
    (same : command ++ (spaces ++ behind) = command' ++ (spaces' ++ behind')) :
    command = command' ∧ spaces = spaces' ∧ behind = behind' := by
  have sameLength : command.length = command'.length := by
    rw [length_of_map echoes.folds, length_of_map echoes'.folds]
  obtain ⟨rfl, sameRest⟩ := List.append_inj same sameLength
  exact ⟨rfl, solid_cut_unique sameRest echoes.areSpaces echoes.solid echoes'.areSpaces
    echoes'.solid⟩

/-! ## What the search finds -/

theorem string_findAll (text : Text) : string.findAll text = string.tokensBetween 0 [] text := by
  have ends : (pattern .string).ReportsToEnd := reportsToEnd_pattern (by decide)
  exact ends.findAll_eq text

/-- A string that begins with its context between two texts, or further to the front if it reaches
over that place. -/
structure FoundAcross (before behind front context body rest back more : Text) : Prop where
  before_eq : before = front ++ back
  behind_eq : behind = more ++ rest
  parts : context ++ body = back ++ more
  more_ne_nil : more ≠ []
  isString : IsString front context body rest
  found : ⟨(front ++ context).byteLen, (front ++ context ++ body).byteLen⟩ ∈
    string.findAll (before ++ behind)

theorem exists_foundAcross {later : Text} (takes : string.Takes before taken later token)
    (cut : behind = taken ++ later) (nonempty : behind ≠ []) :
    ∃ front context body rest back more,
      FoundAcross before behind front context body rest back more := by
  subst cut
  rcases exists_reaching_of_takes takes nonempty with
    ⟨front, back, more, rest, token', reaches, found⟩
  rcases exists_isString_of_prefers reaches.prefers with ⟨context, body, parts, isString, range⟩
  rw [range, ← string_findAll] at found
  refine ⟨front, context, body, rest, back, more, reaches.before_eq, reaches.behind_eq, parts.symm,
    ?_, isString, found⟩
  apply reaches.more_ne_nil_of_taken
  rw [parts]
  intro nothing
  exact isString.body_ne_nil (List.append_eq_nil_iff.mp nothing).2

/-- A character in what is taken that is not part of the context lies in the token. -/
theorem FoundAcross.holds {c : Char} {others front rest back more : Text}
    (across : FoundAcross before (c :: others) front context body rest back more)
    (outside : ∀ between, context ≠ back ++ c :: between) :
    (front ++ context).byteLen ≤ before.byteLen ∧
      before.byteLen < (front ++ context ++ body).byteLen := by
  rcases List.exists_cons_of_ne_nil across.more_ne_nil with ⟨d, later, rfl⟩
  obtain ⟨rfl, _⟩ := List.cons.inj across.behind_eq
  have ends : (front ++ context ++ body).byteLen = before.byteLen + Text.byteLen (c :: later) := by
    rw [List.append_assoc, across.parts, across.before_eq, ← List.append_assoc,
      Text.byteLen_append _ (c :: later)]
  have positive := c.utf8Size_pos
  rw [ends, Text.byteLen_cons]
  constructor
  · rcases List.append_eq_append_iff.mp across.parts with
      ⟨inner, rfl, _⟩ | ⟨between, contextEq, moreEq⟩
    · simp [across.before_eq]
    · cases between with
      | nil => simp [across.before_eq, contextEq]
      | cons d between =>
          obtain ⟨rfl, _⟩ := List.cons.inj moreEq
          exact absurd contextEq (outside between)
  · omega

/-- A quote that another one of its kind follows lies in a token. -/
theorem exists_holds_of_quote {quote : Char} (isQuote : IsQuote quote) (follows : quote ∈ behind) :
    ∃ range ∈ string.findAll (before ++ quote :: behind),
      range.start ≤ before.byteLen ∧ before.byteLen < range.stop := by
  rcases List.eq_append_cons_of_mem follows with ⟨inner, rest, rfl, notIn⟩
  have takes : string.Takes before (quote :: (inner ++ [quote])) rest none := by
    have isRun : (quoted quote).Takes before (quote :: (inner ++ [quote])) rest none :=
      takes_quoted.mpr ⟨inner, notIn, rfl, rfl⟩
    rw [string_eq, takes_orElse, takes_orElse]
    rcases isQuote with rfl | rfl
    · left
      exact isRun
    · right
      left
      exact isRun
  have cut : quote :: (inner ++ quote :: rest) = quote :: (inner ++ [quote]) ++ rest := by simp
  rcases exists_foundAcross takes cut (List.cons_ne_nil _ _) with
    ⟨front, context, body, later, back, more, across⟩
  refine ⟨_, across.found, across.holds ?_⟩
  intro between contextEq
  exact across.isString.not_isQuote quote (by simp [contextEq]) isQuote

/-- A match that reaches over the first letter of the command has the letter in its token. -/
theorem FoundAcross.back_eq_nil {first : Char} {others front rest back more : Text}
    (across : FoundAcross before (first :: others) front context body rest back more)
    (isFirst : Unicode.foldToAscii first = 'e')
    (apart : (front ++ context ++ body).byteLen ≤ before.byteLen ∨
      before.byteLen < (front ++ context).byteLen) : back = [] := by
  by_contra isOver
  rcases List.exists_cons_of_ne_nil isOver with ⟨c, passed, rfl⟩
  have holds := across.holds (by
    intro between contextEq
    exact across.isString.foldToAscii_ne first (by simp [contextEq]) isFirst)
  omega

/-- What a command echoes is found, unless a token overlaps the command. -/
theorem Echoes.exists_found (echoes : Echoes before command spaces behind)
    (apart : ∀ range ∈ string.findAll (before ++ (command ++ (spaces ++ behind))),
      range.stop ≤ before.byteLen ∨ (before ++ command).byteLen ≤ range.start) :
    ∃ argument rest, behind = argument ++ rest ∧ EndsLine argument rest ∧
      ⟨(before ++ (command ++ spaces)).byteLen,
          (before ++ (command ++ spaces) ++ argument).byteLen⟩ ∈
        string.findAll (before ++ (command ++ (spaces ++ behind))) := by
  rcases echoes.exists_first with ⟨first, others, isCommand, isFirst, _⟩
  rcases echoes.exists_takes with ⟨head, later, token, rfl, takesEcho⟩
  have takes : string.Takes before (command ++ spaces ++ [head]) later token := by
    rw [string_eq, takes_orElse, takes_orElse]
    right
    right
    exact takesEcho
  have cut : command ++ (spaces ++ head :: later) = command ++ spaces ++ [head] ++ later := by simp
  rcases exists_foundAcross takes cut (by simp) with
    ⟨front, context, body, rest, back, more, across⟩
  have noOverlap : (front ++ context ++ body).byteLen ≤ before.byteLen ∨
      before.byteLen < (front ++ context).byteLen := by
    rcases apart _ across.found with inFront | behind
    · left
      exact inFront
    · right
      have positive := first.utf8Size_pos
      simp only [isCommand, Text.byteLen_append before, Text.byteLen_cons] at behind
      omega
  obtain rfl : back = [] := by
    simp only [isCommand, List.cons_append] at across
    exact across.back_eq_nil isFirst noOverlap
  obtain rfl : before = front := by simpa using across.before_eq
  have same : command ++ (spaces ++ head :: later) = context ++ body ++ rest := by
    rw [across.behind_eq, across.parts, List.nil_append]
  cases across.isString with
  | quoted noContext isQuoted =>
      rcases isQuoted with ⟨quote, inner, isQuote, _, rfl⟩
      rw [isCommand, noContext] at same
      obtain ⟨rfl, _⟩ := List.cons.inj same
      have isWord := isWordChar_of_echo echoes.folds first (by simp [isCommand])
      rw [isQuote.isWordChar_eq_false] at isWord
      exact Bool.noConfusion isWord
  | echoed parts echoes' endsLine =>
      rw [parts, List.append_assoc, List.append_assoc] at same
      obtain ⟨rfl, rfl, behindEq⟩ := echoes.unique echoes' same
      have found := across.found
      rw [parts] at found
      exact ⟨body, rest, behindEq, endsLine, found⟩

end Grammar

open Grammar in
/-- Every token of the search for strings is quoted text or what a line echoes. A quote outside of
all tokens has no other one of its kind behind it, and a command that echoes its line has its
argument found unless a token overlaps the command. -/
theorem findAll_string (text : Text) :
    (∀ range ∈ string.findAll text, ∃ before context body behind,
      text = before ++ context ++ body ++ behind ∧ IsString before context body behind ∧
        range = ⟨(before ++ context).byteLen, (before ++ context ++ body).byteLen⟩) ∧
      (∀ (before : Text) (quote : Char) (behind : Text), text = before ++ quote :: behind →
        IsQuote quote →
        (∀ range ∈ string.findAll text,
          ¬(range.start ≤ before.byteLen ∧ before.byteLen < range.stop)) →
        quote ∉ behind) ∧
      ∀ before command spaces behind : Text, text = before ++ command ++ spaces ++ behind →
        Echoes before command spaces behind →
        (∀ range ∈ string.findAll text,
          range.stop ≤ before.byteLen ∨ (before ++ command).byteLen ≤ range.start) →
        ∃ argument rest, behind = argument ++ rest ∧ EndsLine argument rest ∧
          ⟨(before ++ command ++ spaces).byteLen,
            (before ++ command ++ spaces ++ argument).byteLen⟩ ∈ string.findAll text := by
  refine ⟨?_, ?_, ?_⟩
  · intro range found
    rcases exists_prefers_of_mem_findAll found with
      ⟨before, taken, behind, token, rfl, prefers, rfl⟩
    rcases exists_isString_of_prefers prefers with ⟨context, body, rfl, isString, range⟩
    exact ⟨before, context, body, behind, by simp, isString, range⟩
  · rintro before quote behind rfl isQuote outside follows
    rcases exists_holds_of_quote isQuote follows with ⟨range, found, holds⟩
    exact outside range found holds
  · rintro before command spaces behind rfl echoes apart
    simp only [List.append_assoc] at apart ⊢
    simpa using echoes.exists_found (by simpa using apart)

example : Grammar.string.findAll "it's echo 'a' \"b\nECHO c".toList = [⟨2, 11⟩, ⟨22, 23⟩] := by
  decide +kernel

end BatchLens
