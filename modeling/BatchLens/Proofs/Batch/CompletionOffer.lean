import BatchLens.Proofs.Batch.VariableCandidates

/-!
# When completion is offered

Where completion is allowed, what can be offered is decided by the place of the caret. On a variable
name there are variables to offer if there is a candidate, and elsewhere there are keywords to offer
if the settings ask for them and the caret is on a bare word. Nothing else decides
(`complete?_isSome_iff`).
-/

namespace BatchLens

namespace Document

variable {document : Document} {environment : Environment} {settings : CompletionSettings}
  {caret : Nat} {span : Span}

theorem AllowsCompletion.isSome_of_onIdentifier (allows : document.AllowsCompletion caret)
    (onName : document.OnIdentifier caret span) :
    (document.complete? environment settings caret).isSome = true ↔
      ∃ name,
        document.IsCandidate environment settings (document.lineOfOffset caret) span name := by
  rw [allows.complete?_of_onIdentifier onName, Option.isSome_iff_ne_none, ne_eq,
    Completion.setOf?_eq_none_iff]
  apply Iff.trans _ not_forall_not
  apply not_congr
  exact variablesAt_eq_nil_iff onName.isSpan onName.isIdentifier

theorem AllowsCompletion.isSome_of_not_onIdentifier (allows : document.AllowsCompletion caret)
    (noName : ∀ span, ¬document.OnIdentifier caret span) :
    (document.complete? environment settings caret).isSome = true ↔
      settings.keywords = true ∧ document.OnBareWord caret := by
  rw [allows.complete?_of_not_onIdentifier noName, onBareWord_iff, ← Bool.and_eq_true]
  split
  next isAsked =>
    have someKeyword : Keyword.table.map Completion.keywordItem ≠ [] := by decide
    rw [Option.isSome_iff_ne_none, ne_eq, Completion.setOf?_eq_none_iff]
    simp only [isAsked, iff_true]
    exact someKeyword
  next notAsked => simp [notAsked]

/-- Something is offered exactly if completion is allowed at the caret, and either the caret is on a
variable name and there is a candidate, or it is on a bare word outside all variable names and
keywords are asked for. -/
theorem complete?_isSome_iff (document : Document) (environment : Environment)
    (settings : CompletionSettings) (caret : Nat) :
    (document.complete? environment settings caret).isSome = true ↔
      document.AllowsCompletion caret ∧
        ((∃ span, document.OnIdentifier caret span ∧
            ∃ name, document.IsCandidate environment settings (document.lineOfOffset caret) span
              name) ∨
          ((¬∃ span, document.OnIdentifier caret span) ∧ settings.keywords = true ∧
            document.OnBareWord caret)) := by
  by_cases allows : document.AllowsCompletion caret
  · by_cases onName : ∃ span, document.OnIdentifier caret span
    · simp only [allows, onName, true_and, not_true_eq_false, false_and, or_false]
      constructor
      · intro offered
        rcases onName with ⟨span, onName⟩
        exact ⟨span, onName, (allows.isSome_of_onIdentifier onName).mp offered⟩
      · rintro ⟨span, onName, isCandidate⟩
        exact (allows.isSome_of_onIdentifier onName).mpr isCandidate
    · rw [allows.isSome_of_not_onIdentifier (not_exists.mp onName)]
      constructor
      · intro onBareWord
        exact ⟨allows, .inr ⟨onName, onBareWord⟩⟩
      · rintro ⟨_, ⟨span, onName', _⟩ | ⟨_, onBareWord⟩⟩
        · exact absurd ⟨span, onName'⟩ onName
        · exact onBareWord
  · simp [complete?_of_not_allowsCompletion allows, allows]

/-- A command may follow an at sign, and the keyword `if`, but no other keyword. -/
example : ["@ec", "if ec", "copy ec"].map (fun text =>
    (complete? ⟨text.toList⟩ FixedEnvironment.empty.toEnvironment {} text.length).isSome) =
      [true, true, false] := by
  decide +kernel

end Document

end BatchLens
