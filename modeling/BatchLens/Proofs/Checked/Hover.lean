import Mathlib.Data.List.Basic
import BatchLens.Batch.Hover
import BatchLens.Proofs.Checked.Document

/-!
# Hover texts without faults

What a hover text is made of is looked up, except that the references in a value are expanded piece
by piece. Every piece is a part of the value that begins or ends at a percent sign, which is a
character of one byte, so that none of them splits a character (`expansionStep_reference`), and each
step leaves less of the value for the next one (`length_lt_of_expansionStep`).
-/

namespace BatchLens

namespace Text

variable {mark : Char} {text before : Text}

theorem splitFirst?_of_not_mem (free : mark ∉ text) : text.splitFirst? mark = none := by
  induction text with
  | nil => rfl
  | cons c rest ih =>
      simp only [List.mem_cons, not_or] at free
      have differs : (c == mark) = false := by simp [Ne.symm free.1]
      simp [splitFirst?, differs, ih free.2]

theorem splitFirst?_append (behind : Text) (free : mark ∉ before) :
    splitFirst? mark (before ++ mark :: behind) = some (before, behind) := by
  induction before with
  | nil => simp [splitFirst?]
  | cons c rest ih =>
      simp only [List.mem_cons, not_or] at free
      have differs : (c == mark) = false := by simp [Ne.symm free.1]
      simp [splitFirst?, differs, ih free.2]

/-- The offset of the first `mark`. -/
def offsetOf? (mark : Char) (text : Text) : Option Nat :=
  (text.splitFirst? mark).map fun parts => parts.1.byteLen

theorem offsetOf?_of_not_mem (free : mark ∉ text) : text.offsetOf? mark = none := by
  rw [offsetOf?, splitFirst?_of_not_mem free, Option.map_none]

theorem offsetOf?_append (behind : Text) (free : mark ∉ before) :
    offsetOf? mark (before ++ mark :: behind) = some before.byteLen := by
  rw [offsetOf?, splitFirst?_append behind free, Option.map_some]

theorem split_ne_nil (mark : Char) (text : Text) : text.split mark ≠ [] := by
  fun_cases split mark text <;> simp

theorem split_of_not_mem (free : mark ∉ text) : text.split mark = [text] := by
  induction text with
  | nil => rfl
  | cons c rest ih =>
      simp only [List.mem_cons, not_or] at free
      have differs : (c == mark) = false := by simp [Ne.symm free.1]
      simp [split, differs, ih free.2]

theorem split_append (behind : Text) (free : mark ∉ before) :
    split mark (before ++ mark :: behind) = before :: split mark behind := by
  induction before with
  | nil => simp [split]
  | cons c rest ih =>
      simp only [List.mem_cons, not_or] at free
      have differs : (c == mark) = false := by simp [Ne.symm free.1]
      simp [split, differs, ih free.2]

end Text

/-! ## References in a text -/

namespace Reference

variable {lookup : Text → Option Text} {text plain name unclosed behind : Text}

theorem exists_marks (text : Text) :
    '%' ∉ text ∨
      (∃ plain unclosed, text = plain ++ '%' :: unclosed ∧ '%' ∉ plain ∧ '%' ∉ unclosed) ∨
      ∃ plain name behind, text = plain ++ '%' :: (name ++ '%' :: behind) ∧ '%' ∉ plain ∧
        '%' ∉ name := by
  by_cases opens : '%' ∈ text
  · right
    rcases List.eq_append_cons_of_mem opens with ⟨plain, rest, rfl, plainFree⟩
    by_cases closes : '%' ∈ rest
    · rcases List.eq_append_cons_of_mem closes with ⟨name, behind, rfl, nameFree⟩
      exact .inr ⟨plain, name, behind, rfl, plainFree, nameFree⟩
    · exact .inl ⟨plain, rest, rfl, plainFree, closes⟩
  · exact .inl opens

theorem expand_of_not_mem (free : '%' ∉ text) : expand lookup text = text := by
  simp [expand, expandParts, Text.split_of_not_mem free]

theorem expand_unclosed (plainFree : '%' ∉ plain) (free : '%' ∉ unclosed) :
    expand lookup (plain ++ '%' :: unclosed) = plain ++ '%' :: unclosed := by
  simp [expand, expandParts, Text.split_append _ plainFree, Text.split_of_not_mem free]

theorem expand_reference (plainFree : '%' ∉ plain) (nameFree : '%' ∉ name) :
    expand lookup (plain ++ '%' :: (name ++ '%' :: behind)) =
      match value? lookup name with
      | some value => plain ++ value ++ expand lookup behind
      | none => plain ++ '%' :: name ++ expand lookup ('%' :: behind) := by
  have marked : Text.split '%' ('%' :: behind) = [] :: Text.split '%' behind :=
    Text.split_append behind (List.not_mem_nil (a := '%'))
  rcases List.exists_cons_of_ne_nil (Text.split_ne_nil '%' behind) with ⟨first, parts, behindParts⟩
  simp only [expand, Text.split_append _ plainFree, Text.split_append _ nameFree, marked,
    behindParts, expandParts]
  cases value? lookup name <;> simp

end Reference

namespace Checked

/-! ## Expanding references -/

/-- What expanding a text up to its next reference writes, and where it goes on. -/
def expansionStep (lookup : Text → Option Text) (text : Text) : Checked (Text × Option Text) :=
  match text.offsetOf? '%' with
  | none => .ok (text, none)
  | some opening => do
      let plain ← front text opening
      let inner ← back text (opening + 1)
      match inner.offsetOf? '%' with
      | none => do
          let unclosed ← back text opening
          .ok (plain ++ unclosed, none)
      | some closing => do
          let name ← front inner closing
          match Reference.value? lookup name with
          | some value => do
              let next ← back inner (closing + 1)
              .ok (plain ++ value, some next)
          | none => do
              -- The closing percent sign may open the next reference.
              let next ← back inner closing
              .ok (plain ++ '%' :: name, some next)

variable {lookup : Text → Option Text} {text plain name unclosed : Text}

/-- A percent sign takes one byte. -/
theorem back_behind_mark (before behind : Text) :
    back (before ++ '%' :: behind) (before.byteLen + 1) = .ok behind := by
  have cut := back_cut (before ++ ['%']) behind
  rw [List.append_assoc, Text.byteLen_append] at cut
  exact cut

theorem expansionStep_of_not_mem (free : '%' ∉ text) :
    expansionStep lookup text = .ok (text, none) := by
  rw [expansionStep, Text.offsetOf?_of_not_mem free]

theorem expansionStep_unclosed (plainFree : '%' ∉ plain) (free : '%' ∉ unclosed) :
    expansionStep lookup (plain ++ '%' :: unclosed) = .ok (plain ++ '%' :: unclosed, none) := by
  simp only [expansionStep, Text.offsetOf?_append _ plainFree, front_cut, back_behind_mark, ok_bind,
    Text.offsetOf?_of_not_mem free, back_cut]

theorem expansionStep_reference (lookup : Text → Option Text) (behind : Text)
    (plainFree : '%' ∉ plain) (nameFree : '%' ∉ name) :
    expansionStep lookup (plain ++ '%' :: (name ++ '%' :: behind)) =
      match Reference.value? lookup name with
      | some value => .ok (plain ++ value, some behind)
      | none => .ok (plain ++ '%' :: name, some ('%' :: behind)) := by
  simp only [expansionStep, Text.offsetOf?_append _ plainFree, Text.offsetOf?_append _ nameFree,
    front_cut, back_behind_mark, ok_bind, back_cut]

/-- At least the opening percent sign is left behind. -/
theorem length_lt_of_expansionStep {written next : Text}
    (taken : expansionStep lookup text = .ok (written, some next)) : next.length < text.length := by
  rcases Reference.exists_marks text with
    free | ⟨plain, unclosed, rfl, plainFree, free⟩ | ⟨plain, name, behind, rfl, plainFree, nameFree⟩
  · rw [expansionStep_of_not_mem free] at taken
    cases taken
  · rw [expansionStep_unclosed plainFree free] at taken
    cases taken
  · rw [expansionStep_reference lookup behind plainFree nameFree] at taken
    split at taken
    all_goals
      cases taken
      simp only [List.length_append, List.length_cons]
      omega

/-- The text with its references to known names replaced. -/
def expand (lookup : Text → Option Text) (text : Text) : Checked Text :=
  match _taken : expansionStep lookup text with
  | .error fault => .error fault
  | .ok (written, none) => .ok written
  | .ok (written, some next) => (expand lookup next).map (written ++ ·)
termination_by text.length
decreasing_by exact length_lt_of_expansionStep ‹_›

theorem expand_of_step {written : Text} {next : Option Text}
    (taken : expansionStep lookup text = .ok (written, next)) :
    expand lookup text =
      match next with
      | none => .ok written
      | some next => (expand lookup next).map (written ++ ·) := by
  rw [expand]
  split
  next failed => cases taken.symm.trans failed
  next last => cases taken.symm.trans last; rfl
  next goesOn => cases taken.symm.trans goesOn; rfl

theorem expand_eq (lookup : Text → Option Text) (text : Text) :
    expand lookup text = .ok (Reference.expand lookup text) := by
  -- By the length of the text, because an unknown name leaves its closing percent sign behind.
  induction length : text.length using Nat.strongRecOn generalizing text with
  | _ length ih =>
      subst length
      rcases Reference.exists_marks text with
        free | ⟨plain, unclosed, rfl, plainFree, free⟩ |
          ⟨plain, name, behind, rfl, plainFree, nameFree⟩
      · rw [expand_of_step (expansionStep_of_not_mem free), Reference.expand_of_not_mem free]
      · rw [expand_of_step (expansionStep_unclosed plainFree free),
          Reference.expand_unclosed plainFree free]
      · have taken := expansionStep_reference lookup behind plainFree nameFree
        rw [Reference.expand_reference plainFree nameFree]
        cases known : Reference.value? lookup name with
        | some value =>
            rw [known] at taken
            rw [expand_of_step taken]
            simp only [ih _ (length_lt_of_expansionStep taken) _ rfl, Except.map]
        | none =>
            rw [known] at taken
            rw [expand_of_step taken]
            simp only [ih _ (length_lt_of_expansionStep taken) _ rfl, Except.map]

/-! ## Hover texts -/

/-- What is shown for the variable in a piece of text. -/
def variableContents (environment : Environment) (settings : HoverSettings) (text : Text) :
    Checked (Option (List Text)) :=
  let name := Hover.variableName text
  match environment.value? name with
  | none => .ok none
  | some value =>
      if value.isEmpty then .ok none
      else
        let render := if settings.splitPath && Text.sameIgnoringAsciiCase name "path".toList then
          Hover.splitPath else id
        if settings.showExpanded then do
          let expanded ← expand environment.value? value
          .ok (some (if expanded != value then [render value, render expanded] else [render value]))
        else .ok (some [render value])

/-- The hover text at an offset of a document. -/
def hover (document : Document) (environment : Environment) (settings : HoverSettings)
    (offset : Nat) : Checked (Option Hover) := do
  let offset ← clamp document offset
  let index ← lineOfOffset document offset
  let start ← lineStart document index
  let line ← line document index
  let column := offset - start
  let spans := classify line
  let about (span : Span) (contents : List Text) : Hover :=
    ⟨⟨start + span.start, start + span.stop⟩, contents⟩
  let onVariable ← (match Hover.spanAt? spans .identifier column with
    | none => .ok none
    | some span => do
        let contents ← variableContents environment settings (span.text line)
        .ok (contents.map (about span)))
  match onVariable with
  | some hover => .ok (some hover)
  | none =>
      .ok do
        let span ← Hover.spanAt? spans .keyword column
        let contents ← Hover.keywordContents? (span.text line)
        some (about span contents)

theorem variableContents_eq (environment : Environment) (settings : HoverSettings) (text : Text) :
    variableContents environment settings text =
      .ok (Hover.variableContents? environment settings text) := by
  rw [variableContents, Hover.variableContents?]
  cases environment.value? (Hover.variableName text) with
  | none => rfl
  | some value =>
      simp only [Option.bind_eq_bind, Option.bind_some, expand_eq, ok_bind, Environment.expand]
      cases value.isEmpty with
      | true => rfl
      | false =>
          cases settings.showExpanded with
          | false => rfl
          | true =>
              simp only [Bool.false_eq_true, if_false, if_true, Bool.true_and]
              congr 1
              exact (apply_ite some _ _ _)

theorem hover_eq (document : Document) (environment : Environment) (settings : HoverSettings)
    (offset : Nat) :
    hover document environment settings offset =
      .ok (document.hover? environment settings offset) := by
  simp only [hover, clamp_eq, lineOfOffset_eq, lineStart_eq, line_eq, variableContents_eq, ok_bind,
    Document.hover?, Document.hoverAmong?, Option.bind_eq_bind]
  cases Hover.spanAt? (classify (document.line (document.lineOfOffset (document.clamp offset))))
      .identifier (document.clamp offset -
        document.lineStart (document.lineOfOffset (document.clamp offset))) with
  | none => rfl
  | some span =>
      simp only [Option.bind_some]
      cases Hover.variableContents? environment settings
          (span.text (document.line (document.lineOfOffset (document.clamp offset)))) with
      | none => rfl
      | some contents => rfl

end Checked

end BatchLens
