import BatchLens.Proofs.Batch.Precedence
import BatchLens.Proofs.Batch.Ranges
import BatchLens.Proofs.Offset
import BatchLens.Environment.Fixed

/-!
# Completing a reference

A completed variable takes the place of what stands between the percent signs of the span at the
caret. Each of the two signs is looked for on its own and stays if it is there
(`nameRange_of_covers`), and none is added. So a name between two percent signs becomes another name
between two percent signs, while a span that only begins with one, such as an argument with
modifiers or the target of an assignment, has none behind the name either
(`complete?_between_percent_signs`).
-/

namespace BatchLens

namespace Completion

/-- The percent sign that closes a piece of text, if what follows its first character ends in
one. -/
def closing (text : Text) : Text :=
  if text.tail.getLast? = some '%' then ['%'] else []

/-- A piece of text that begins with a percent sign, by what stands behind it. -/
theorem exists_name_of_opens {text : Text} (opens : text.head? = some '%') :
    ∃ name mark, text = '%' :: (name ++ mark) ∧ closing text = mark := by
  rcases List.head?_eq_some_iff.mp opens with ⟨inner, rfl⟩
  rw [closing, List.tail_cons]
  split
  next closes =>
    rcases List.getLast?_eq_some_iff.mp closes with ⟨name, rfl⟩
    exact ⟨name, ['%'], rfl, rfl⟩
  next => exact ⟨inner, [], by simp, rfl⟩

/-- The sign at the end is left out of a name unless it is the one at the beginning. -/
theorem leftOut_eq (inner : Text) :
    (if Text.byteLen ('%' :: inner) > 1 && List.getLast? ('%' :: inner) == some '%' then 1 else 0) =
      (closing ('%' :: inner)).byteLen := by
  cases inner with
  | nil => rfl
  | cons c rest =>
      have long : Text.byteLen ('%' :: c :: rest) > 1 := by
        have sign : '%'.utf8Size = 1 := rfl
        have positive := c.utf8Size_pos
        simp only [Text.byteLen_cons]
        omega
      rw [decide_eq_true long, Bool.true_and, List.getLast?_cons_cons, closing, List.tail_cons]
      simp only [beq_iff_eq]
      split <;> rfl

/-- What is left of a span without the percent signs at its ends. -/
theorem nameRange_of_covers {span : Span} {line before name mark behind : Text}
    (covers : span.Covers line before ('%' :: (name ++ mark)) behind)
    (closes : closing ('%' :: (name ++ mark)) = mark) :
    nameRange span line = ⟨(before ++ ['%']).byteLen, (before ++ ['%'] ++ name).byteLen⟩ := by
  have starts : span.start + 1 = (before ++ ['%']).byteLen := by
    rw [covers.start_eq, Text.byteLen_append]
    rfl
  have stops : span.stop - mark.byteLen = (before ++ ['%'] ++ name).byteLen := by
    have whole : before ++ '%' :: (name ++ mark) = before ++ ['%'] ++ name ++ mark := by simp
    rw [covers.stop_eq, whole, Text.byteLen_append (before ++ ['%'] ++ name), Nat.add_sub_cancel]
  have ordered : (before ++ ['%']).byteLen ≤ (before ++ ['%'] ++ name).byteLen := by
    rw [Text.byteLen_append (before ++ ['%'])]
    omega
  rw [nameRange]
  simp only [covers.text_under, leftOut_eq, closes, stops, List.head?_cons, beq_self_eq_true,
    if_true, starts, Nat.max_eq_left ordered]

/-- The variables that can be inserted are inserted by their names. -/
theorem insertText_of_mem_variableItems {document : Document} {environment : Environment}
    {settings : CompletionSettings} {current : ByteRange} {item : CompletionItem}
    (isItem : item ∈ variableItems document environment settings current) :
    item.insertText = item.label ∧ item.kind = .variable := by
  rcases List.mem_map.mp isItem with ⟨⟨name, description⟩, _, rfl⟩
  exact ⟨rfl, rfl⟩

theorem mem_of_setOf? {start : Nat} {range : ByteRange} {items : List CompletionItem}
    {set : CompletionSet} (offered : setOf? start range items = some set) {item : CompletionItem}
    (isItem : item ∈ set.items) : item ∈ items := by
  rw [setOf?] at offered
  split at offered
  next => exact absurd offered (by simp)
  next =>
    rw [← Option.some.inj offered] at isItem
    exact List.mem_mergeSort.mp isItem

theorem items_ne_nil_of_setOf? {start : Nat} {range : ByteRange} {items : List CompletionItem}
    {set : CompletionSet} (offered : setOf? start range items = some set) : set.items ≠ [] := by
  rw [setOf?] at offered
  split at offered
  next => exact absurd offered (by simp)
  next someItems =>
    intro noItems
    rw [← Option.some.inj offered] at noItems
    have sorted : items.mergeSort itemBefore = [] := noItems
    have permuted := List.mergeSort_perm items itemBefore
    rw [sorted] at permuted
    exact someItems (List.isEmpty_iff.mpr permuted.nil_eq.symm)

end Completion

namespace Document

/-- A variable name that a caret is on: the character before the caret lies inside it. -/
structure OnIdentifier (document : Document) (caret : Nat) (span : Span) : Prop where
  isSpan : span ∈ classify (document.line (document.lineOfOffset caret))
  isIdentifier : span.category = .identifier
  containsCaret : span.containsCaret
    (min (document.clamp caret - document.lineStart (document.lineOfOffset caret))
      (document.line (document.lineOfOffset caret)).byteLen) = true

variable {document : Document} {environment : Environment} {settings : CompletionSettings}
  {caret : Nat} {span : Span} {set : CompletionSet}

/-- On a variable name only variables are offered, and they take the place of this name. -/
theorem OnIdentifier.setOf?_eq (onName : document.OnIdentifier caret span)
    (answered : document.complete? environment settings caret = some set) :
    Completion.setOf? (document.lineStart (document.lineOfOffset caret))
        (Completion.nameRange span (document.line (document.lineOfOffset caret)))
        (Completion.variableItems document environment settings
          ⟨document.lineStart (document.lineOfOffset caret) + span.start,
            document.lineStart (document.lineOfOffset caret) + span.stop⟩) =
      some set := by
  have found := Classification.find?_containsCaret onName.isSpan onName.containsCaret
  rw [onName.isIdentifier] at found
  simp only [complete?, lineOfOffset_clamp, Option.ite_none_left_eq_some, found] at answered
  exact answered.2.2.2

/-- The variable name at the caret becomes the name that was chosen, with the percent signs that
were around it. -/
theorem complete?_between_percent_signs (onName : document.OnIdentifier caret span)
    (opens : (span.text (document.line (document.lineOfOffset caret))).head? = some '%')
    (answered : document.complete? environment settings caret = some set) :
    ∃ front back,
      document.text =
        front ++ span.text (document.line (document.lineOfOffset caret)) ++ back ∧
      front.byteLen = document.lineStart (document.lineOfOffset caret) + span.start ∧
      ∀ item ∈ set.items, item.kind = .variable ∧
        (document.replace set.replaced item.insertText).text =
          front ++ ('%' :: (item.label ++
            Completion.closing (span.text (document.line (document.lineOfOffset caret))))) ++
          back := by
  have isLine := document.lineOfOffset_lt caret
  have offered := onName.setOf?_eq answered
  have replaced := replaced_of_setOf? offered
  rcases exists_coversLine isLine onName.isSpan with
    ⟨earlier, before, middle, behind, ending, later, covers⟩
  have isLineText := covers.line_eq
  have isText : span.text (document.line (document.lineOfOffset caret)) = middle := by
    rw [isLineText]
    exact covers.covers.text_under
  rw [isText] at opens ⊢
  rcases Completion.exists_name_of_opens opens with ⟨name, mark, rfl, closes⟩
  rw [closes]
  refine ⟨Line.joined earlier ++ before, behind ++ (ending ++ Line.joined later), ?_, ?_, ?_⟩
  · rw [covers.located_stop.text_eq]
    simp
  · rw [Text.byteLen_append, covers.lineStart_eq, covers.covers.start_eq]
  · intro item isItem
    rcases Completion.insertText_of_mem_variableItems (Completion.mem_of_setOf? offered isItem) with
      ⟨inserted, isVariable⟩
    refine ⟨isVariable, ?_⟩
    have atName := Completion.nameRange_of_covers covers.covers closes
    have parts : document.text = (Line.joined earlier ++ (before ++ ['%'])) ++ name ++
        (mark ++ (behind ++ (ending ++ Line.joined later))) := by
      rw [covers.located_stop.text_eq]
      simp
    have range : set.replaced = ⟨(Line.joined earlier ++ (before ++ ['%'])).byteLen,
        (Line.joined earlier ++ (before ++ ['%']) ++ name).byteLen⟩ := by
      rw [replaced, isLineText, atName, covers.lineStart_eq]
      simp only [Text.byteLen_append, Nat.add_assoc]
    have cut := replace_cut (Line.joined earlier ++ (before ++ ['%'])) name
      (mark ++ (behind ++ (ending ++ Line.joined later))) item.label
    rw [← parts, ← range] at cut
    rw [inserted, cut]
    simp

/-- The caret may also be behind the closing percent sign. -/
theorem complete?_between_percent_signs_behind_reference :
    let document : Document := ⟨"@echo off\r\nif %PA% x".toList⟩
    let environment := (FixedEnvironment.ofList [("PATH".toList, "x".toList)]).toEnvironment
    document.OnIdentifier 18 ⟨3, 4, .identifier⟩ ∧
      ∃ set, document.complete? environment {} 18 = some set ∧
        ∃ front back, document.text = front ++ "%PA%".toList ++ back ∧ front.byteLen = 14 ∧
          ∀ item ∈ set.items, item.kind = .variable ∧
            (document.replace set.replaced item.insertText).text =
              front ++ ('%' :: (item.label ++ ['%'])) ++ back := by
  intro document environment
  have onName : document.OnIdentifier 18 ⟨3, 4, .identifier⟩ :=
    ⟨by decide +kernel, rfl, by decide +kernel⟩
  have answered : document.complete? environment {} 18 =
      some ⟨⟨15, 17⟩, [⟨"PATH".toList, "PATH".toList, "x".toList, .variable⟩]⟩ := by
    decide +kernel
  refine ⟨onName, _, answered, ?_⟩
  exact complete?_between_percent_signs onName (by decide +kernel) answered

/-- The name that takes the place of an argument with modifiers has no percent sign behind it. -/
theorem not_complete?_between_percent_signs :
    ¬∀ (document : Document) (environment : Environment) (settings : CompletionSettings)
        (caret : Nat) (span : Span) (set : CompletionSet),
      document.OnIdentifier caret span →
      (span.text (document.line (document.lineOfOffset caret))).head? = some '%' →
      document.complete? environment settings caret = some set →
      ∃ front back,
        document.text =
          front ++ span.text (document.line (document.lineOfOffset caret)) ++ back ∧
        front.byteLen = document.lineStart (document.lineOfOffset caret) + span.start ∧
        ∀ item ∈ set.items, item.kind = .variable ∧
          (document.replace set.replaced item.insertText).text =
            front ++ ('%' :: (item.label ++ ['%'])) ++ back := by
  intro closesAll
  have onName : Document.OnIdentifier ⟨"%~f1".toList⟩ 4 ⟨0, 4, .identifier⟩ :=
    ⟨by decide +kernel, rfl, by decide +kernel⟩
  have answered : Document.complete? ⟨"%~f1".toList⟩
      (FixedEnvironment.ofList [("PATH".toList, "x".toList)]).toEnvironment {} 4 =
        some ⟨⟨1, 4⟩, [⟨"PATH".toList, "PATH".toList, "x".toList, .variable⟩]⟩ := by
    decide +kernel
  rcases closesAll _ _ _ _ _ _ onName (by decide +kernel) answered with
    ⟨front, back, _, _, completed⟩
  have longer := congrArg List.length (completed _ List.mem_cons_self).2
  have short : (Document.replace ⟨"%~f1".toList⟩ ⟨1, 4⟩ "PATH".toList).text.length = 5 := by
    decide
  rw [short] at longer
  simp at longer
  omega

end Document

end BatchLens
