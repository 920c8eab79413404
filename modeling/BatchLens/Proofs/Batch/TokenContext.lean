import BatchLens.Proofs.Batch.OperatorToken
import BatchLens.Proofs.Batch.StringToken
import BatchLens.Proofs.Batch.SwitchToken
import BatchLens.Proofs.Pattern.Alternative

/-!
# Tokens and their context

The pattern of each category is a choice between alternatives (`alternatives`, `hits_pattern`). An
alternative marks its token and nothing else, or it has no context and all that it takes is the
token, and each token begins with something solid (`beginsWith_body`). From this the search for any
category is known as a run of matches, and no token has any of the context of a match in it
(`findAll_tokens`).
-/

namespace BatchLens

namespace Grammar

open Pattern

/-- The alternatives of a category, the preferred one first: what has to stand in front of a token,
the token, and what has to stand behind it. -/
def alternatives : Category → List Alternative
  | .comment =>
      [.marked (textStart ++ many isSpace) (maybe (char '@') ++ remark ++ lineRest) empty,
        .marked (one isSolid ++ many isSpace) (char '&' ++ many isSpace ++ remark ++ lineRest)
          empty]
  | .string =>
      [.whole (quoted '"'), .whole (quoted '\x27'),
        .marked (wordBoundary ++ word "echo".toList ++ oneOrMore isSpace) (one isSolid ++ lineRest)
          empty]
  | .keyword =>
      [.marked (textStart <|> one isSpace)
        (maybe (char '@') ++ anyOf (Keyword.names.map word)) wordBoundary]
  | .operator =>
      [.whole (literal "&&".toList), .whole (char '&'), .whole (literal "||".toList),
        .whole (char '|'), .whole redirection, .whole (char '<'), .whole (char '!'),
        .whole (char '='), .whole (char '^')]
  | .parameter =>
      [.marked (one isSpace) (switchMark ++ oneOrMore Unicode.isWordChar) empty]
  | .identifier =>
      [.marked
          (wordBoundary ++ word "set".toList ++ oneOrMore isSpace ++
            maybe (char '/' ++ letterOf "ap" ++ oneOrMore isSpace) ++ maybe (char '"'))
          (oneOrMore isTargetChar) (many isSpace ++ char '='),
        .marked empty (char '%' ++ oneOrMore isReferenceChar ++ char '%') empty,
        .marked empty
          (literal "%~".toList ++
            oneOrMore (fun c => "fdpnxsatz".toList.contains (Unicode.foldToAscii c)) ++
            one Unicode.isDecimalDigit)
          empty]
  | .label =>
      [.marked (textStart ++ many isSpace) (char ':' ++ oneOrMore isLabelChar) empty,
        .marked
          (wordBoundary ++ word "goto".toList ++ (many isSpace ++ char ':' <|> oneOrMore isSpace))
          (oneOrMore isLabelChar) empty]

theorem hits_pattern (category : Category) (place : Place) :
    (pattern category).hits place = (Alternative.choice (alternatives category)).hits place := by
  cases category with
  | identifier =>
      simp only [pattern, identifier, alternatives, Alternative.choice, hits_anyOf,
        Alternative.pattern, List.map_cons, List.map_nil, List.flatMap_cons, List.flatMap_nil,
        List.append_nil, hits_orElse, hits_append_empty, hits_empty_append]
      rw [hits_append_assoc]
  | _ =>
      simp only [pattern, comment, string_eq, echoed, keyword, operator_eq, parameter_eq, label,
        alternatives, Alternative.choice, hits_anyOf, Alternative.pattern, List.map_cons,
        List.map_nil, List.flatMap_cons, List.flatMap_nil, List.append_nil, hits_orElse,
        hits_append_empty]

theorem isPlain_of_mem_alternatives {category : Category} :
    ∀ alternative ∈ alternatives category, alternative.isPlain = true := by
  cases category <;> decide

/-! ## Tokens begin with something solid -/

theorem isSolid_of_isTargetChar {c : Char} (isIn : isTargetChar c = true) : isSolid c = true := by
  simp only [isTargetChar, Bool.and_eq_true] at isIn
  exact isIn.1.1

theorem beginsWith_oneOrMore {test : Char → Bool} (solid : ∀ c, test c = true → isSolid c = true) :
    (oneOrMore test).BeginsWith isSolid :=
  (BeginsWith.one solid).append

theorem beginsWith_word {letters : Text} (nonempty : letters ≠ [])
    (areLabelChars : letters.all isLabelChar = true) : (word letters).BeginsWith isSolid := by
  intro before taken behind token takes
  obtain ⟨folds, _⟩ := takes_word.mp takes
  rcases List.exists_cons_of_ne_nil nonempty with ⟨first, others, rfl⟩
  rcases List.map_eq_cons_iff.mp folds with ⟨c, rest, rfl, _, _⟩
  have isIn := isLabelChar_of_map folds areLabelChars c List.mem_cons_self
  exact ⟨c, rfl, isSolid_of_isLabelChar isIn⟩

theorem beginsWith_remark : remark.BeginsWith isSolid := by
  have command : (word "rem".toList).BeginsWith isSolid := beginsWith_word (by decide) (by decide)
  have colon : (char ':').BeginsWith isSolid := .char (by decide)
  exact command.append.orElse colon.append

theorem beginsWith_keyword : (anyOf (Keyword.names.map word)).BeginsWith isSolid := by
  apply BeginsWith.anyOf
  intro body isWord
  rcases List.mem_map.mp isWord with ⟨name, isName, rfl⟩
  rcases isLabelChar_of_mem_names isName with ⟨nonempty, areLabelChars⟩
  exact beginsWith_word nonempty areLabelChars

theorem beginsWith_redirection : redirection.BeginsWith isSolid := by
  have handle : (one isHandle).BeginsWith isSolid := .one fun _ => isSolid_of_isHandle
  have arrow : (char '>').BeginsWith isSolid := .char rfl
  exact (handle.maybe_append arrow).append

/-- Every token begins with something solid. -/
theorem beginsWith_body {category : Category} :
    ∀ alternative ∈ alternatives category, alternative.body.BeginsWith isSolid := by
  have mark {c : Char} (solid : isSolid c = true) : (char c).BeginsWith isSolid := .char solid
  cases category <;> simp only [alternatives, List.forall_mem_cons, Alternative.body]
  case comment =>
    refine ⟨?_, ?_, List.forall_mem_nil _⟩
    · exact ((mark rfl).maybe_append beginsWith_remark).append
    · exact (mark rfl).append.append.append
  case string =>
    refine ⟨?_, ?_, ?_, List.forall_mem_nil _⟩
    · exact (mark rfl).append.append
    · exact (mark rfl).append.append
    · exact (BeginsWith.one fun _ => id).append
  case keyword => exact ⟨(mark rfl).maybe_append beginsWith_keyword, List.forall_mem_nil _⟩
  case operator =>
    exact ⟨(mark rfl).append, mark rfl, (mark rfl).append, mark rfl, beginsWith_redirection,
      mark rfl, mark rfl, mark rfl, mark rfl, List.forall_mem_nil _⟩
  case parameter => exact ⟨((mark rfl).orElse (mark rfl).append).append, List.forall_mem_nil _⟩
  case identifier =>
    refine ⟨?_, ?_, ?_, List.forall_mem_nil _⟩
    · exact beginsWith_oneOrMore fun _ => isSolid_of_isTargetChar
    · exact (mark rfl).append.append
    · exact (mark rfl).append.append.append
  case label =>
    refine ⟨?_, ?_, List.forall_mem_nil _⟩
    · exact (mark rfl).append
    · exact beginsWith_oneOrMore fun _ => isSolid_of_isLabelChar

/-! ## Tokens without context -/

/-- Only operators and quoted texts are found as a whole. -/
theorem category_of_isWhole {category : Category} {body : Pattern}
    (isWhole : .whole body ∈ alternatives category) :
    category = .operator ∨ category = .string ∧ ∃ quote, IsQuote quote ∧ body = quoted quote := by
  cases category with
  | operator => exact .inl rfl
  | string =>
      simp only [alternatives, List.mem_cons, Alternative.whole.injEq, reduceCtorEq,
        List.not_mem_nil, or_false] at isWhole
      rcases isWhole with rfl | rfl
      · exact .inr ⟨rfl, '"', .inl rfl, rfl⟩
      · exact .inr ⟨rfl, '\x27', .inr rfl, rfl⟩
  | _ => simp [alternatives] at isWhole

/-! ## The run of a search -/

variable {category : Category} {text : Text} {found : Match} {made : List Match}

/-- Whether a match has the token of a category: it begins with something solid, and only in an
operator or a quoted text it is found without context because all of the match is reported. -/
structure IsToken (category : Category) (found : Match) : Prop where
  whole : ∀ body, found.alternative = .whole body →
    category = .operator ∨ category = .string ∧ IsQuoted found.body
  solid : ∃ c ∈ found.body.head?, isSolid c = true

theorem isToken_of_isMade (isAlternative : found.alternative ∈ alternatives category)
    (isMade : found.IsMade) : IsToken category found := by
  rcases isMade.takesBody with ⟨inner, takesBody⟩
  refine ⟨?_, beginsWith_body _ isAlternative _ _ _ _ takesBody⟩
  intro body isWhole
  rw [isWhole] at isAlternative takesBody
  rcases category_of_isWhole isAlternative with isOperator | ⟨isString, quote, isQuote, rfl⟩
  · exact .inl isOperator
  · rcases takes_quoted.mp takesBody with ⟨inner, notIn, isBody, _⟩
    exact .inr ⟨isString, quote, inner, isQuote, notIn, isBody⟩

theorem IsToken.start_lt_stop (isToken : IsToken category found) :
    found.range.start < found.range.stop := by
  rcases isToken.solid with ⟨c, isHead, _⟩
  rcases List.head?_eq_some_iff.mp isHead with ⟨rest, isBody⟩
  have positive : 0 < found.body.byteLen := Text.byteLen_pos (by simp [isBody])
  simp only [Match.range, Text.byteLen_append]
  omega

theorem IsToken.taken_ne_nil (isToken : IsToken category found) : found.taken ≠ [] := by
  rcases isToken.solid with ⟨c, isHead, _⟩
  intro nothing
  simp only [Match.taken, List.append_eq_nil_iff] at nothing
  simp [nothing.1.2] at isHead

/-- The search for a category is a run of matches of its alternatives. -/
theorem exists_run_findAll (category : Category) (text : Text) :
    ∃ made, Run (alternatives category) [] text made ∧
      (pattern category).findAll text = made.map Match.range ∧
      ∀ found ∈ made, IsToken category found := by
  have takeSome : ∀ alternative ∈ alternatives category, ∀ before behind token,
      ¬alternative.body.Takes before [] behind token := by
    intro alternative isAlternative before behind token takes
    rcases beginsWith_body alternative isAlternative _ _ _ _ takes with ⟨c, isHead, _⟩
    simp at isHead
  rcases exists_run isPlain_of_mem_alternatives takeSome [] text with ⟨made, run⟩
  have areTokens : ∀ found ∈ made, IsToken category found := by
    intro found isMatch
    rcases run.isMade isMatch with ⟨isAlternative, isMade⟩
    exact isToken_of_isMade isAlternative isMade
  have tokens := run.tokens (fun found isMatch => (areTokens found isMatch).taken_ne_nil)
    (Nat.zero_le _)
  refine ⟨made, run, ?_, areTokens⟩
  rw [findAll_congr (hits_pattern category), findAll_eq, tokens, List.filter_eq_self]
  intro range isRange
  rcases List.mem_map.mp isRange with ⟨found, isMatch, rfl⟩
  exact decide_eq_true (areTokens found isMatch).start_lt_stop

end Grammar

open Pattern Grammar in
/-- Whatever the category is, the tokens of a text are parts of it, none of them empty, and each
lies behind the one before. They are the tokens of the matches of a search that comes to an end, at
most one for each character: each is what the first alternative that matches marks, or all that it
takes if it is an operator or a quoted text. None begins with white space, and none covers anything
that stands in a match as context: neither the command to assign, to jump or to echo, nor the white
space or the character in front. -/
theorem findAll_tokens (category : Category) (text : Text) :
    (∀ range ∈ (pattern category).findAll text, range.IsPart text ∧ range.start < range.stop) ∧
      ((pattern category).findAll text).Pairwise
        (fun left right => left.start < right.start ∧ left.stop ≤ right.start) ∧
      ∃ made, Run (alternatives category) [] text made ∧ made.length ≤ text.length ∧
        (pattern category).findAll text = made.map Match.range ∧
        ∀ found ∈ made, IsToken category found ∧
          ∀ range ∈ (pattern category).findAll text, found.LeavesOut range := by
  refine ⟨fun range => isPart_of_mem_findAll, ?_, ?_⟩
  · exact (findAll_increasing _ text).and (findAll_pairwise _ text)
  · rcases exists_run_findAll category text with ⟨made, run, tokens, areTokens⟩
    have ends : made.length ≤ text.length :=
      run.length_le fun found isMatch => (areTokens found isMatch).taken_ne_nil
    refine ⟨made, run, ends, tokens, ?_⟩
    intro found isMatch
    refine ⟨areTokens found isMatch, ?_⟩
    rw [tokens]
    intro range isRange
    rcases List.mem_map.mp isRange with ⟨other, isOther, rfl⟩
    exact run.leavesOut isMatch isOther

example : (Grammar.pattern .identifier).findAll "set /a \"x =%y% %~dp0".toList =
    [⟨8, 9⟩, ⟨11, 14⟩, ⟨15, 20⟩] := by
  decide +kernel

end BatchLens
