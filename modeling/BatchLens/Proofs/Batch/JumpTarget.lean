import Mathlib.Data.List.Basic
import BatchLens.Proofs.Batch.Grammar
import BatchLens.Proofs.Batch.Precedence

/-!
# Labels and jumps to them

A label is written behind a colon where it is defined, and behind a command and a gap where it is
jumped to (`labelForms`). With a name of word characters its pattern takes the whole text in each of
these forms (`mem_candidates_label`), and of the stronger categories only that of the keywords can
claim the name (`candidates_labelForm`). A keyword begins behind white space, so that a target
behind nothing but a space is a label exactly if it is no keyword (`classify_label`).
-/

namespace BatchLens

namespace Grammar

open Pattern

theorem isLabelChar_of_isWordChar {c : Char} (isWord : Unicode.isWordChar c = true) :
    isLabelChar c = true := by
  have notColon : c ≠ ':' := by
    rintro rfl
    exact absurd isWord (by decide)
  simp [isLabelChar, isSolid, Unicode.isWhiteSpace_of_isWordChar isWord, notColon]

theorem label_goesOnWhile : label.GoesOnWhile isLabelChar := by
  have name : (oneOrMore isLabelChar).GoesOnWhile isLabelChar :=
    (goesOnWhile_many isLabelChar).append
  exact name.append.marked.append.orElse name.marked.append

/-- How a label is written: what stands in front of its token, and what the token begins with. -/
structure LabelForm where
  context : Text
  mark : Text
  deriving DecidableEq, Repr

/-- What stands between a command to jump and its target. -/
def jumpGaps : List Text := [":".toList, " :".toList, " ".toList]

/-- The definition of a label and the jumps to one. -/
def labelForms : List LabelForm :=
  ⟨[], [':']⟩ :: jumpGaps.map fun gap => ⟨"goto".toList ++ gap, []⟩

namespace LabelForm

/-- The text that names a label in this form. -/
def text (form : LabelForm) (name : Text) : Text := form.context ++ form.mark ++ name

/-- What the forms consist of: word characters, spaces and colons. -/
def isWritten (c : Char) : Bool := Unicode.isWordChar c || c == ' ' || c == ':'

variable {form : LabelForm} {name before taken behind : Text} {token : Option ByteRange} {c : Char}

theorem eq_of_mem_labelForms (isForm : form ∈ labelForms) :
    form = ⟨[], [':']⟩ ∨ ∃ gap ∈ jumpGaps, form = ⟨"goto".toList ++ gap, []⟩ := by
  rcases List.mem_cons.mp isForm with definition | isJump
  · exact .inl definition
  · rcases List.mem_map.mp isJump with ⟨gap, isGap, rfl⟩
    exact .inr ⟨gap, isGap, rfl⟩

theorem text_jump (gap name : Text) :
    text ⟨"goto".toList ++ gap, []⟩ name = "goto".toList ++ (gap ++ name) := by
  simp [text]

theorem jumpGaps_ne_nil {gap : Text} (isGap : gap ∈ jumpGaps) :
    gap ≠ [] ∧ ∀ c ∈ gap, isLabelChar c = false := by
  have gaps : ∀ gap ∈ jumpGaps, gap ≠ [] ∧ gap.all (!isLabelChar ·) = true := by decide
  exact ⟨(gaps gap isGap).1, by simpa using (gaps gap isGap).2⟩

/-- A word of label characters that ends at a command to jump is all of this command. -/
theorem eq_command_of_bordersWord {word gap : Text} (isGap : gap ∈ jumpGaps) (nonempty : word ≠ [])
    (areLabelChars : ∀ c ∈ word, isLabelChar c = true)
    (starts : word ++ behind = "goto".toList ++ (gap ++ name))
    (ends : Text.BordersWord (before ++ word) behind) : word = "goto".toList := by
  rcases List.append_eq_append_iff.mp starts with
    ⟨between, command, rfl⟩ | ⟨between, rfl, rests⟩
  · have areWordChars : ∀ c ∈ word ++ between, Unicode.isWordChar c = true := by
      rw [← command]
      exact List.all_eq_true.mp (by decide)
    obtain rfl := Text.eq_nil_of_bordersWord nonempty areWordChars ends
    simpa using command.symm
  · cases between with
    | nil => simp
    | cons c others =>
        rcases jumpGaps_ne_nil isGap with ⟨notEmpty, notLabel⟩
        rcases List.exists_cons_of_ne_nil notEmpty with ⟨first, more, rfl⟩
        obtain ⟨rfl, _⟩ := List.cons.inj rests
        have isLabel := areLabelChars first (by simp)
        rw [notLabel first List.mem_cons_self] at isLabel
        exact Bool.noConfusion isLabel

/-- The pattern can take the definition of a label as a whole. -/
theorem takes_definition (nonempty : name ≠ []) (areLabelChars : ∀ c ∈ name, isLabelChar c = true) :
    label.Takes [] (':' :: name) [] (some ⟨0, Text.byteLen (':' :: name)⟩) := by
  simp only [label, takes_orElse, takes_append, takes_textStart, takes_many, takes_token,
    takes_char, takes_oneOrMore]
  left
  refine ⟨[], _, none, _, rfl, ⟨[], [], none, none, rfl, ⟨trivial, rfl, rfl⟩, ?_, rfl⟩,
    ⟨⟨none, [':'], name, none, none, rfl, ⟨rfl, rfl⟩, ⟨nonempty, areLabelChars, rfl⟩, rfl⟩, rfl⟩,
    rfl⟩
  simp

/-- The pattern can take a jump to a label as a whole. -/
theorem takes_jump {gap : Text} (isGap : gap ∈ jumpGaps) (nonempty : name ≠ [])
    (areLabelChars : ∀ c ∈ name, isLabelChar c = true) :
    label.Takes [] ("goto".toList ++ gap ++ name) []
      (some ⟨Text.byteLen ("goto".toList ++ gap),
        Text.byteLen ("goto".toList ++ gap ++ name)⟩) := by
  have isCommand : "goto".toList.map Unicode.foldToAscii = "goto".toList := by decide
  have commandStarts : Text.BordersWord [] ("goto".toList ++ (gap ++ (name ++ []))) := by
    rw [Text.BordersWord, Place.atWordBoundary]
    rfl
  have isBetween : (∃ spaces, gap = spaces ++ [':'] ∧ ∀ c ∈ spaces, isSpace c = true) ∨
      (gap ≠ [] ∧ ∀ c ∈ gap, isSpace c = true) := by
    simp only [jumpGaps, List.mem_cons, List.not_mem_nil, or_false] at isGap
    rcases isGap with rfl | rfl | rfl
    · exact .inl ⟨[], rfl, by simp⟩
    · exact .inl ⟨[' '], rfl, List.all_eq_true.mp (by decide)⟩
    · exact .inr ⟨by decide, List.all_eq_true.mp (by decide)⟩
  simp only [label, takes_orElse, takes_append, takes_many, takes_token, takes_char,
    takes_oneOrMore, takes_wordBoundary, takes_word]
  right
  refine ⟨"goto".toList ++ gap, name, none, _, rfl,
    ⟨"goto".toList, gap, none, none, rfl, ⟨[], _, none, none, rfl,
      ⟨commandStarts, rfl, rfl⟩, ⟨isCommand, rfl⟩, rfl⟩, ?_, rfl⟩,
    ⟨⟨none, nonempty, areLabelChars, rfl⟩, rfl⟩, rfl⟩
  rcases isBetween with ⟨spaces, rfl, areSpaces⟩ | areSpaces
  · exact .inl ⟨spaces, [':'], none, none, rfl, ⟨areSpaces, rfl⟩, ⟨rfl, rfl⟩, rfl⟩
  · exact .inr ⟨areSpaces.1, areSpaces.2, rfl⟩

section

variable (isForm : form ∈ labelForms) (areWordChars : ∀ c ∈ name, Unicode.isWordChar c = true)
include isForm areWordChars

theorem not_mem_text (other : isWritten c = false) : c ∉ form.text name := by
  have areWritten : ∀ form ∈ labelForms, (form.context ++ form.mark).all isWritten = true := by
    decide
  intro isIn
  rcases List.mem_append.mp isIn with inForm | inName
  · exact absurd (List.all_eq_true.mp (areWritten form isForm) c inForm) (by simp [other])
  · exact absurd other (by simp [isWritten, areWordChars c inName])

/-- White space stands behind the command of a jump only. -/
theorem cut_of_isSpace (cut : form.text name = before ++ c :: behind) (space : isSpace c = true) :
    before = "goto".toList ∧ c = ' ' ∧
      ∃ rest, form = ⟨"goto".toList ++ ' ' :: rest, []⟩ ∧ behind = rest ++ name ∧
        (rest = [] ∨ rest = [':']) := by
  have spaces : ∀ form ∈ labelForms, (form.context ++ form.mark).any isSpace = true →
      form = ⟨"goto".toList ++ ' ' :: form.context.drop 5, []⟩ ∧
        (form.context.drop 5 = [] ∨ form.context.drop 5 = [':']) := by
    decide
  have solidName : c ∉ name := by
    intro inName
    have noSpace := Unicode.isWhiteSpace_of_isWordChar (areWordChars c inName)
    exact absurd space (by simp [isSpace, noSpace])
  have solidCommand : c ∉ "goto".toList := by
    have noSpaces : "goto".toList.all (!isSpace ·) = true := by decide
    intro isIn
    exact absurd space (by simpa using List.all_eq_true.mp noSpaces c isIn)
  have inText : c ∈ form.text name := by simp [cut]
  rcases List.mem_append.mp inText with inForm | inName
  · rcases spaces form isForm (List.any_eq_true.mpr ⟨c, inForm, space⟩) with ⟨isJump, isRest⟩
    have solidRest : c ∉ form.context.drop 5 ++ name := by
      rw [List.mem_append, not_or]
      refine ⟨?_, solidName⟩
      rcases isRest with nothing | colon
      · rw [nothing]
        exact List.not_mem_nil
      · rw [colon, List.mem_singleton]
        rintro rfl
        exact absurd space (by decide)
    rw [isJump, text, List.append_nil, List.append_assoc, List.cons_append] at cut
    obtain ⟨same, isSpace, rests⟩ := (List.append_cons_inj_of_notMem solidCommand solidRest).mp cut
    exact ⟨same.symm, isSpace.symm, _, isJump, rests.symm, isRest⟩
  · exact absurd inName solidName

/-- A form begins with no white space. -/
theorem eq_nil_of_isSpace {spaces : Text} (cut : form.text name = spaces ++ behind)
    (areSpaces : ∀ c ∈ spaces, isSpace c = true) : spaces = [] := by
  cases spaces with
  | nil => rfl
  | cons c others =>
      have atSpace : form.text name = [] ++ c :: (others ++ behind) := cut
      have jump := cut_of_isSpace isForm areWordChars atSpace (areSpaces c List.mem_cons_self)
      exact absurd jump.1 (by decide)

theorem eq_nil_of_sign {sign : Text} (cut : form.text name = before ++ (sign ++ behind))
    (isSign : sign = [] ∨ sign = ['@']) : sign = [] := by
  rcases isSign with rfl | rfl
  · rfl
  · have noAt : '@' ∉ form.text name := not_mem_text isForm areWordChars (by decide)
    exact absurd (by simp [cut]) noAt

theorem not_takes_operator (cut : form.text name = before ++ taken ++ behind) :
    ¬operator.Takes before taken behind token := by
  intro takes
  rcases of_takes_operator takes with ⟨_, ⟨c, isIn, isOperator⟩, _⟩
  have noneIsWritten : operatorChars.all (!isWritten ·) = true := by decide
  have notWritten := List.all_eq_true.mp noneIsWritten c (List.contains_iff_mem.mp isOperator)
  exact not_mem_text isForm areWordChars (by simpa using notWritten) (by simp [cut, isIn])

theorem not_takes_parameter (cut : form.text name = before ++ taken ++ behind) :
    ¬parameter.Takes before taken behind token := by
  intro takes
  rcases of_takes_parameter takes with ⟨space, dashes, word, rfl, _, nonempty, areDashes, _⟩
  rcases List.exists_mem_of_ne_nil dashes nonempty with ⟨c, isIn⟩
  have notWritten : isWritten c = false := by
    rcases areDashes c isIn with rfl | rfl <;> decide
  exact not_mem_text isForm areWordChars notWritten (by simp [cut, isIn])

/-- What is echoed follows white space, and in front of that there is only the command to jump. -/
theorem not_takes_string (cut : form.text name = before ++ taken ++ behind) :
    ¬string.Takes before taken behind token := by
  intro takes
  rcases of_takes_string takes with
    ⟨_, quote, inner, isQuote, rfl⟩ |
    ⟨command, spaces, first, rest, rfl, isCommand, ⟨nonempty, areSpaces⟩, _⟩
  · have notWritten : isWritten quote = false := by
      rcases isQuote with rfl | rfl <;> decide
    exact not_mem_text isForm areWordChars notWritten (by simp [cut])
  · rcases List.exists_cons_of_ne_nil nonempty with ⟨c, others, rfl⟩
    have atSpace : form.text name =
        (before ++ command) ++ c :: (others ++ (first :: rest ++ behind)) := by
      simp [cut]
    have jump := (cut_of_isSpace isForm areWordChars atSpace (areSpaces c List.mem_cons_self)).1
    have sameLength : command.length = "goto".toList.length := by
      rw [length_of_map isCommand]
      rfl
    obtain ⟨rfl, rfl⟩ : before = [] ∧ command = "goto".toList := List.append_inj' jump sameLength
    exact absurd isCommand (by decide)

theorem not_takes_comment (cut : form.text name = before ++ taken ++ behind) :
    ¬comment.Takes before taken behind token := by
  intro takes
  rcases of_takes_comment takes with
    ⟨rfl, spaces, sign, opening, rest, rfl, areSpaces, isSign, isRemark, _⟩ |
    ⟨first, spaces, rest, rfl, _⟩
  · have atStart : form.text name = spaces ++ (sign ++ opening ++ rest ++ behind) := by
      simpa using cut
    obtain rfl := eq_nil_of_isSpace isForm areWordChars atStart areSpaces
    have signed : form.text name = [] ++ (sign ++ (opening ++ rest ++ behind)) := by
      simpa using cut
    obtain rfl := eq_nil_of_sign isForm areWordChars signed isSign
    have starts : form.text name = opening ++ (rest ++ behind) := by simpa using cut
    rcases isRemark with isCommand | rfl
    · rcases List.map_eq_cons_iff.mp isCommand with ⟨c, others, rfl, isLetter, _⟩
      rcases eq_of_mem_labelForms isForm with rfl | ⟨gap, _, rfl⟩
      · obtain ⟨rfl, _⟩ := List.cons.inj starts
        exact absurd isLetter (by decide)
      · obtain ⟨rfl, _⟩ := List.cons.inj starts
        exact absurd isLetter (by decide)
    · rcases eq_of_mem_labelForms isForm with rfl | ⟨gap, _, rfl⟩
      · obtain ⟨_, rfl⟩ := List.cons.inj starts
        exact absurd (areWordChars ':' List.mem_cons_self) (by decide)
      · obtain ⟨different, _⟩ := List.cons.inj starts
        exact absurd different (by decide)
  · have noAmpersand : '&' ∉ form.text name := not_mem_text isForm areWordChars (by decide)
    exact noAmpersand (by simp [cut])

/-- A keyword is the command to jump, or the target behind nothing but a space. -/
theorem of_takes_keyword (cut : form.text name = before ++ taken ++ behind)
    (takes : keyword.Takes before taken behind token) :
    (before = [] ∧ taken = "goto".toList ∧ form.context ≠ [] ∧ token = some ⟨0, 4⟩) ∨
      (before = "goto".toList ∧ taken = ' ' :: name ∧ behind = [] ∧
        form = ⟨"goto ".toList, []⟩ ∧ name.map Unicode.foldToAscii ∈ Keyword.names ∧
        token = some ⟨Text.byteLen "goto ".toList, Text.byteLen ("goto ".toList ++ name)⟩) := by
  rcases Grammar.of_takes_keyword takes with
    ⟨space, sign, word, rfl, isLead, isSign, isName, ends, rfl⟩
  have signed : form.text name = (before ++ space) ++ (sign ++ (word ++ behind)) := by
    simpa using cut
  obtain rfl := eq_nil_of_sign isForm areWordChars signed isSign
  have areLabelChars := isLabelChar_of_map rfl (isLabelChar_of_mem_names isName).2
  have nonempty := ne_nil_of_mem_names isName
  have noColon (more : Text) : word ++ behind ≠ ':' :: more := by
    rcases List.exists_cons_of_ne_nil nonempty with ⟨c, others, rfl⟩
    intro same
    obtain ⟨rfl, _⟩ := List.cons.inj same
    exact absurd (areLabelChars ':' List.mem_cons_self) (by decide)
  -- Either the keyword stands at the start of the text, or behind the only space there is.
  rcases isLead with ⟨rfl, rfl⟩ | ⟨c, isSpace, rfl⟩
  · left
    have starts : form.text name = word ++ behind := by simpa using cut
    rcases eq_of_mem_labelForms isForm with rfl | ⟨gap, isGap, rfl⟩
    · exact absurd starts.symm (noColon name)
    · rw [text_jump] at starts
      have isCommand := eq_command_of_bordersWord isGap nonempty areLabelChars starts.symm ends
      subst isCommand
      exact ⟨rfl, rfl, by simp, rfl⟩
  · right
    have atSpace : form.text name = before ++ c :: (word ++ behind) := by simpa using cut
    rcases cut_of_isSpace isForm areWordChars atSpace isSpace with
      ⟨rfl, rfl, rest, rfl, isTarget, rfl | rfl⟩
    · rw [List.nil_append] at isTarget
      have nothing : behind = [] := by
        rw [← isTarget] at areWordChars
        have targetEnds : Text.BordersWord ("goto ".toList ++ word) (behind ++ []) := by
          simpa using ends
        exact Text.eq_nil_of_bordersWord nonempty areWordChars targetEnds
      subst nothing
      obtain rfl : word = name := by simpa using isTarget
      exact ⟨rfl, rfl, rfl, rfl, isName, rfl⟩
    · exact absurd isTarget (noColon name)

/-- The pattern of labels takes each form as a whole. -/
theorem prefers_label (nonempty : name ≠ []) :
    label.Prefers [] (form.text name) []
      (some ⟨form.context.byteLen, (form.text name).byteLen⟩) := by
  have isName : ∀ c ∈ name, isLabelChar c = true := fun c isIn =>
    isLabelChar_of_isWordChar (areWordChars c isIn)
  have takes : label.Takes [] (form.text name) []
      (some ⟨form.context.byteLen, (form.text name).byteLen⟩) := by
    rcases eq_of_mem_labelForms isForm with rfl | ⟨gap, isGap, rfl⟩
    · exact takes_definition nonempty isName
    · rw [text, List.append_nil]
      exact takes_jump isGap nonempty isName
  rcases exists_prefers_of_takes takes with ⟨taken, later, token, cut, prefers⟩
  rw [List.append_nil] at cut
  have stops : ∀ c ∈ later.head?, isLabelChar c = false := label_goesOnWhile _ _ prefers
  -- The match goes on over label characters, so that nothing of the name is left.
  have nothing {front : Text} (rest : name = front ++ later) : later = [] := by
    cases later with
    | nil => rfl
    | cons c others =>
        have notLabel := stops c rfl
        rw [isName c (by simp [rest])] at notLabel
        exact Bool.noConfusion notLabel
  rcases of_takes_label prefers.takes with
    ⟨_, spaces, word, rfl, areSpaces, rfl⟩ |
    ⟨command, gap, word, rfl, isCommand, areGap, nonemptyWord, areLabelChars, rfl⟩
  · have atStart : form.text name = spaces ++ (':' :: word ++ later) := by simpa using cut
    obtain rfl := eq_nil_of_isSpace isForm areWordChars atStart areSpaces
    rcases eq_of_mem_labelForms isForm with rfl | ⟨gap, _, rfl⟩
    · obtain ⟨_, rest⟩ := List.cons.inj cut
      obtain rfl := nothing rest
      obtain rfl : name = word := by simpa using rest
      exact prefers
    · obtain ⟨different, _⟩ := List.cons.inj cut
      exact absurd different (by decide)
  · rcases eq_of_mem_labelForms isForm with rfl | ⟨written, isWritten, rfl⟩
    · rcases List.map_eq_cons_iff.mp isCommand with ⟨c, others, rfl, isLetter, _⟩
      obtain ⟨rfl, _⟩ := List.cons.inj cut
      exact absurd isLetter (by decide)
    · have jump : "goto".toList ++ (written ++ name) = command ++ (gap ++ (word ++ later)) := by
        simpa [text] using cut
      obtain ⟨rfl, target⟩ := List.append_inj jump (length_of_map isCommand).symm
      have parts : written = gap ∧ name = word ++ later := by
        apply Text.cut_inj target (jumpGaps_ne_nil isWritten).2
        · intro c isIn
          exact isLabelChar_eq_false (areGap c isIn)
        · intro c isHead
          exact isName c (List.mem_of_mem_head? isHead)
        · intro c isHead
          rw [List.head?_append_of_ne_nil _ nonemptyWord] at isHead
          exact areLabelChars c (List.mem_of_mem_head? isHead)
      obtain ⟨rfl, rest⟩ := parts
      obtain rfl := nothing rest
      obtain rfl : name = word := by simpa using rest
      simpa [text] using prefers

end

section

variable (areWordChars : ∀ c ∈ name, Unicode.isWordChar c = true)
include areWordChars

theorem prefers_command :
    keyword.Prefers [] "goto".toList (' ' :: name) (some ⟨0, 4⟩) := by
  have ends : Text.BordersWord ([] ++ ([] ++ "goto".toList)) (' ' :: name) := by
    rw [Text.BordersWord, Place.atWordBoundary]
    rfl
  have isName : "goto".toList.map Unicode.foldToAscii ∈ Keyword.names := by decide
  rcases exists_prefers_of_takes (takes_keyword (.inl ⟨rfl, rfl⟩) isName ends) with
    ⟨taken, behind, token, cut, prefers⟩
  have isText : text ⟨"goto ".toList, []⟩ name = [] ++ taken ++ behind := cut
  rcases of_takes_keyword (by decide) areWordChars isText prefers.takes with
    ⟨_, rfl, _, rfl⟩ | ⟨different, _⟩
  · obtain rfl := List.append_cancel_left cut
    exact prefers
  · exact absurd different (by decide)

theorem prefers_target (isName : name.map Unicode.foldToAscii ∈ Keyword.names) :
    keyword.Prefers "goto".toList (' ' :: name) []
      (some ⟨Text.byteLen "goto ".toList, Text.byteLen ("goto ".toList ++ name)⟩) := by
  have nonempty := ne_nil_of_mem_names isName
  have ends : Text.BordersWord ("goto".toList ++ ([' '] ++ name)) [] := by
    rw [← List.append_assoc]
    exact Text.bordersWord_nil nonempty areWordChars
  rcases exists_prefers_of_takes (takes_keyword (.inr ⟨' ', by decide, rfl⟩) isName ends) with
    ⟨taken, behind, token, cut, prefers⟩
  have isText : text ⟨"goto ".toList, []⟩ name = "goto".toList ++ taken ++ behind := by
    rw [List.append_assoc, ← cut]
    simp [text]
  rcases of_takes_keyword (by decide) areWordChars isText prefers.takes with
    ⟨different, _⟩ | ⟨_, rfl, rfl, _, _, rfl⟩
  · exact absurd different (by decide)
  · exact prefers

end

end LabelForm

end Grammar

namespace Classification

open Grammar Pattern

variable {form : LabelForm} {name : Text} {category : Category}

section

variable (isForm : form ∈ labelForms) (areWordChars : ∀ c ∈ name, Unicode.isWordChar c = true)
include isForm areWordChars

/-- Beside a label there are only keywords. -/
theorem candidates_labelForm (precedes : category.Precedes .label)
    (notKeyword : category ≠ .keyword) : candidates (form.text name) category = [] := by
  apply candidates_eq_nil
  intro before taken behind token cut
  cases category with
  | comment => exact LabelForm.not_takes_comment isForm areWordChars cut
  | string => exact LabelForm.not_takes_string isForm areWordChars cut
  | keyword => exact absurd rfl notKeyword
  | operator => exact LabelForm.not_takes_operator isForm areWordChars cut
  | parameter => exact LabelForm.not_takes_parameter isForm areWordChars cut
  | identifier => exact absurd precedes Category.not_identifier_precedes
  | label => exact absurd precedes (by decide)

theorem mem_candidates_label (nonempty : name ≠ []) :
    ⟨form.context.byteLen, (form.mark ++ name).byteLen, .label⟩ ∈
      candidates (form.text name) .label := by
  have isText : form.text name = form.context ++ (form.mark ++ name) := by
    rw [LabelForm.text, List.append_assoc]
  have isLabel : form.mark ++ name ≠ [] := by simp [nonempty]
  have prefers : (pattern .label).Prefers [] (form.text name) [] _ :=
    LabelForm.prefers_label isForm areWordChars nonempty
  have found := tokensBetween_append_of_prefers (Nat.zero_le _)
    (by simp [LabelForm.text, nonempty]) prefers
  rw [List.append_nil] at found
  have isRange : Span.ofRange .label ⟨form.context.byteLen, (form.text name).byteLen⟩ =
      ⟨form.context.byteLen, (form.mark ++ name).byteLen, .label⟩ := by
    rw [Span.ofRange, isText, Text.byteLen_append form.context, Nat.add_sub_cancel_left]
  rw [← isRange]
  apply mem_candidates_of_mem_tokensBetween
  · rw [found]
    exact List.mem_cons_self
  · rw [isText, Text.byteLen_append form.context]
    exact Nat.lt_add_of_pos_right (Text.byteLen_pos isLabel)

/-- A keyword ends in front of the label, or it is the target itself. -/
theorem stop_le_of_mem_candidates_keyword {span : Span}
    (isToken : span ∈ candidates (form.text name) .keyword) :
    span.stop ≤ form.context.byteLen ∨
      form = ⟨"goto ".toList, []⟩ ∧ name.map Unicode.foldToAscii ∈ Keyword.names := by
  rcases exists_prefers_of_mem_candidates isToken with
    ⟨before, taken, behind, token, cut, prefers, rfl⟩
  rcases LabelForm.of_takes_keyword isForm areWordChars cut prefers.takes with
    ⟨rfl, rfl, isJump, rfl⟩ | ⟨_, _, _, isTarget, isName, _⟩
  · left
    rcases LabelForm.eq_of_mem_labelForms isForm with rfl | ⟨gap, _, rfl⟩
    · exact absurd rfl isJump
    · rw [Text.byteLen_append]
      exact Nat.le_add_right _ _
  · exact .inr ⟨isTarget, isName⟩

/-- Labels are found in each form, but behind nothing but a space a keyword is stronger. -/
theorem mem_classify_label (nonempty : name ≠ []) (free : form = ⟨"goto ".toList, []⟩ →
      name.map Unicode.foldToAscii ∉ Keyword.names) :
    ⟨form.context.byteLen, (form.mark ++ name).byteLen, .label⟩ ∈ classify (form.text name) := by
  have noComment : candidates (form.text name) .comment = [] :=
    candidates_labelForm isForm areWordChars (by decide) (by decide)
  apply mem_classify_of_free noComment (by decide)
    (mem_candidates_label isForm areWordChars nonempty)
  intro stronger precedes other isOther
  by_cases isKeyword : stronger = .keyword
  · subst isKeyword
    rcases stop_le_of_mem_candidates_keyword isForm areWordChars isOther with ends | isTarget
    · exact Span.intersects_eq_false_of_stop_le ends
    · exact absurd isTarget.2 (free isTarget.1)
  · rw [candidates_labelForm isForm areWordChars precedes isKeyword] at isOther
    exact absurd isOther List.not_mem_nil

end

section

variable (areWordChars : ∀ c ∈ name, Unicode.isWordChar c = true)
  (isName : name.map Unicode.foldToAscii ∈ Keyword.names)
include areWordChars isName

/-- The search for keywords passes over the command to jump and then finds the target. -/
theorem mem_candidates_keyword :
    ⟨5, name.byteLen, .keyword⟩ ∈
      candidates (LabelForm.text ⟨"goto ".toList, []⟩ name) .keyword := by
  have command : (pattern .keyword).Prefers [] "goto".toList (' ' :: name) _ :=
    LabelForm.prefers_command areWordChars
  have target : (pattern .keyword).Prefers "goto".toList (' ' :: name) [] _ :=
    LabelForm.prefers_target areWordChars isName
  have isText : LabelForm.text ⟨"goto ".toList, []⟩ name = "goto".toList ++ ' ' :: name := by
    simp [LabelForm.text]
  have isRange : Span.ofRange .keyword
        ⟨Text.byteLen "goto ".toList, Text.byteLen ("goto ".toList ++ name)⟩ =
      ⟨5, name.byteLen, .keyword⟩ := by
    rw [Span.ofRange, Text.byteLen_append, Nat.add_sub_cancel_left]
    rfl
  rw [← isRange]
  apply mem_candidates_of_mem_tokensBetween
  · rw [isText, tokensBetween_append_of_prefers (Nat.zero_le _) (by simp) command]
    apply List.mem_cons_of_mem
    rw [List.nil_append, ← List.append_nil (' ' :: name),
      tokensBetween_append_of_prefers (Nat.le_refl _) (by simp) target]
    exact List.mem_cons_self
  · rw [Text.byteLen_append]
    exact Nat.lt_add_of_pos_right (Text.byteLen_pos (ne_nil_of_mem_names isName))

theorem mem_classify_keyword :
    ⟨5, name.byteLen, .keyword⟩ ∈ classify (LabelForm.text ⟨"goto ".toList, []⟩ name) := by
  have isForm : ⟨"goto ".toList, []⟩ ∈ labelForms := by decide
  have noComment : candidates (LabelForm.text ⟨"goto ".toList, []⟩ name) .comment = [] :=
    candidates_labelForm isForm areWordChars (by decide) (by decide)
  apply mem_classify_of_free noComment (by decide) (mem_candidates_keyword areWordChars isName)
  intro stronger precedes other isOther
  have beside : stronger.Precedes .label ∧ stronger ≠ .keyword := by
    revert precedes
    cases stronger <;> decide
  rw [candidates_labelForm isForm areWordChars beside.1 beside.2] at isOther
  exact absurd isOther List.not_mem_nil

end

end Classification

open Classification Grammar in
/-- Label definitions and the targets of jumps are recognised alike, except that a keyword behind
nothing but a space is not taken for a label. -/
theorem classify_label {name : Text} (nonempty : name ≠ [])
    (areWordChars : ∀ c ∈ name, Unicode.isWordChar c = true) :
    ⟨0, 1 + name.byteLen, .label⟩ ∈ classify (':' :: name) ∧
    ⟨5, name.byteLen, .label⟩ ∈ classify ("goto:".toList ++ name) ∧
    ⟨6, name.byteLen, .label⟩ ∈ classify ("goto :".toList ++ name) ∧
    (⟨5, name.byteLen, .label⟩ ∈ classify ("goto ".toList ++ name) ↔
      name.map Unicode.foldToAscii ∉ Keyword.names) ∧
    (name.map Unicode.foldToAscii ∈ Keyword.names →
      ⟨5, name.byteLen, .keyword⟩ ∈ classify ("goto ".toList ++ name)) := by
  have isLabel {form : LabelForm} {start length : Nat} {text : Text} (isForm : form ∈ labelForms)
      (starts : form.context.byteLen = start) (lengths : (form.mark ++ name).byteLen = length)
      (isText : form.text name = text)
      (free : form = ⟨"goto ".toList, []⟩ → name.map Unicode.foldToAscii ∉ Keyword.names) :
      ⟨start, length, .label⟩ ∈ classify text := by
    rw [← starts, ← lengths, ← isText]
    exact mem_classify_label isForm areWordChars nonempty free
  have isText : LabelForm.text ⟨"goto ".toList, []⟩ name = "goto ".toList ++ name := by
    simp [LabelForm.text]
  have isKeyword := mem_classify_keyword areWordChars
  rw [isText] at isKeyword
  refine ⟨?_, ?_, ?_, ⟨?_, ?_⟩, isKeyword⟩
  · have definition : ⟨[], [':']⟩ ∈ labelForms := by decide
    apply isLabel definition rfl rfl rfl
    intro isTarget
    exact absurd isTarget (by decide)
  · have behindColon : ⟨"goto:".toList, []⟩ ∈ labelForms := by decide
    apply isLabel behindColon (by decide) rfl rfl
    intro isTarget
    exact absurd isTarget (by decide)
  · have behindGap : ⟨"goto :".toList, []⟩ ∈ labelForms := by decide
    apply isLabel behindGap (by decide) rfl rfl
    intro isTarget
    exact absurd isTarget (by decide)
  · intro isSpan isName
    have apart := (classify_pairwise ("goto ".toList ++ name)).forall
      (List.mem_filter.mpr ⟨isSpan, rfl⟩) (List.mem_filter.mpr ⟨isKeyword isName, rfl⟩) (by simp)
    have overlaps :
        Span.intersects ⟨5, name.byteLen, .label⟩ ⟨5, name.byteLen, .keyword⟩ = true := by
      rw [Span.intersects_iff]
      constructor <;> exact Nat.lt_add_of_pos_right (Text.byteLen_pos nonempty)
    exact Bool.false_ne_true (apart.symm.trans overlaps)
  · intro noName
    have behindSpace : ⟨"goto ".toList, []⟩ ∈ labelForms := by decide
    exact isLabel behindSpace (by decide) rfl rfl fun _ => noName

/-- Letters outside ASCII belong to a name as well. -/
theorem classify_label_of_umlaut :
    let name := "fehler_ü".toList
    ⟨0, 10, .label⟩ ∈ classify (':' :: name) ∧
    ⟨5, 9, .label⟩ ∈ classify ("goto:".toList ++ name) ∧
    ⟨6, 9, .label⟩ ∈ classify ("goto :".toList ++ name) ∧
    (⟨5, 9, .label⟩ ∈ classify ("goto ".toList ++ name) ↔
      name.map Unicode.foldToAscii ∉ Keyword.names) ∧
    (name.map Unicode.foldToAscii ∈ Keyword.names →
      ⟨5, 9, .keyword⟩ ∈ classify ("goto ".toList ++ name)) :=
  classify_label (by decide) (List.all_eq_true.mp (by decide +kernel))

/-- The name of a command is a keyword behind a space, although it is a label behind a colon. -/
theorem not_classify_label :
    ¬∀ name : Text, name ≠ [] → (∀ c ∈ name, Unicode.isWordChar c = true) →
      ⟨0, 1 + name.byteLen, .label⟩ ∈ classify (':' :: name) ∧
      ⟨5, name.byteLen, .label⟩ ∈ classify ("goto ".toList ++ name) ∧
      ⟨5, name.byteLen, .label⟩ ∈ classify ("goto:".toList ++ name) ∧
      ⟨6, name.byteLen, .label⟩ ∈ classify ("goto :".toList ++ name) := by
  intro allAlike
  have isLabel := (allAlike "echo".toList (by decide) (List.all_eq_true.mp (by decide))).2.1
  have noLabel : (⟨5, 4, .label⟩ : Span) ∉ classify "goto echo".toList := by decide +kernel
  exact noLabel isLabel

end BatchLens
