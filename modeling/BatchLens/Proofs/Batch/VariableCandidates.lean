import Mathlib.Data.Prod.Lex
import BatchLens.Proofs.Batch.CaretContext
import BatchLens.Proofs.Batch.DocumentReference
import BatchLens.Proofs.Text.Order

/-!
# Which variables are offered

Inside a variable name the variables of the environment and those that the document refers to
elsewhere are offered, each of the two as far as the settings ask for them. They go into one list,
the environment first, of which each name is taken where it comes first, up to the case of ASCII
letters (`mem_firstOfEach`). What is left is sorted by a different key, the label in lower case and
then the label (`itemBefore_iff`), which is strictly increasing all the same, as no name is left
twice.
-/

namespace BatchLens

namespace Completion

/-! ## Each name once -/

section FirstOfEach

variable {seen : List Text} {entries : List (Text × Text)} {entry : Text × Text}

theorem isNamed_iff {name : Text} :
    FixedEnvironment.isNamed name entry = true ↔
      Text.asciiUpper entry.1 = Text.asciiUpper name := by
  simp [FixedEnvironment.isNamed]

/-- Of the variables of each name that was not seen before, the first one is left. -/
theorem mem_firstOfEach :
    entry ∈ firstOfEach seen entries ↔
      Text.asciiUpper entry.1 ∉ seen ∧
        entries.find? (FixedEnvironment.isNamed entry.1) = some entry := by
  induction entries generalizing seen with
  | nil => simp [firstOfEach]
  | cons first others ih =>
      rcases first with ⟨name, description⟩
      rw [firstOfEach]
      by_cases sameName : Text.asciiUpper name = Text.asciiUpper entry.1
      · rw [List.find?_cons_of_pos (isNamed_iff.mpr sameName), Option.some.injEq]
        simp only [sameName, List.contains_iff_mem]
        split
        next wasSeen => simp [ih, wasSeen]
        next notSeen => simp [ih, notSeen, eq_comm]
      · have otherEntry : entry ≠ (name, description) := by
          rintro rfl
          exact sameName rfl
        rw [List.find?_cons_of_neg (mt isNamed_iff.mp sameName)]
        split
        next => exact ih
        next => simp [ih, otherEntry, Ne.symm sameName]

theorem mem_firstOfEach_of_find? {name : Text}
    (found : entries.find? (FixedEnvironment.isNamed name) = some entry) :
    entry ∈ firstOfEach [] entries := by
  have sameName := isNamed_iff.mp (List.find?_some found)
  have sameTest : FixedEnvironment.isNamed entry.1 = FixedEnvironment.isNamed name := by
    funext other
    simp only [FixedEnvironment.isNamed, sameName]
  apply mem_firstOfEach.mpr
  rw [sameTest]
  exact ⟨List.not_mem_nil, found⟩

theorem exists_mem_firstOfEach (isEntry : entry ∈ entries) :
    ∃ first ∈ firstOfEach [] entries, Text.asciiUpper first.1 = Text.asciiUpper entry.1 := by
  have isSome : (entries.find? (FixedEnvironment.isNamed entry.1)).isSome = true := by
    rw [List.find?_isSome]
    exact ⟨entry, isEntry, isNamed_iff.mpr rfl⟩
  rcases Option.isSome_iff_exists.mp isSome with ⟨first, found⟩
  exact ⟨first, mem_firstOfEach_of_find? found, isNamed_iff.mp (List.find?_some found)⟩

end FirstOfEach

/-! ## The order of items -/

theorem setOf?_eq_none_iff {start : Nat} {range : ByteRange} {items : List CompletionItem} :
    setOf? start range items = none ↔ items = [] := by
  simp [setOf?]

end Completion

namespace Document

/-! ## The two sources -/

/-- Whether there is a variable of exactly that name to offer in place of a span of a line: one of
the environment, or one that the document refers to elsewhere, if the settings ask for them. -/
def IsCandidate (document : Document) (environment : Environment) (settings : CompletionSettings)
    (index : Nat) (current : Span) (name : Text) : Prop :=
  (settings.environmentVariables = true ∧ ∃ value, (name, value) ∈ environment.bindings) ∨
    (settings.documentVariables = true ∧
      ∃ reference : Reference, reference.IsBeside document index current ∧ reference.name = name)

/-- The names and descriptions of all candidates, in the order in which they are looked at. -/
def candidates (document : Document) (environment : Environment) (settings : CompletionSettings)
    (index : Nat) (current : Span) : List (Text × Text) :=
  (if settings.environmentVariables then environment.bindings else []) ++
    if settings.documentVariables then
      (document.referencesBeside index current).map fun reference =>
        (reference.name, reference.description)
    else []

variable {document : Document} {environment : Environment} {settings : CompletionSettings}
  {index : Nat} {current : Span} {name : Text}

theorem isCandidate_iff :
    document.IsCandidate environment settings index current name ↔
      ∃ description,
        (name, description) ∈ document.candidates environment settings index current := by
  simp only [IsCandidate, candidates, List.mem_append, List.mem_ite_nil_right, List.mem_map,
    mem_referencesBeside, Prod.mk.injEq]
  constructor
  · rintro (⟨asked, value, bound⟩ | ⟨asked, reference, isBeside, rfl⟩)
    · exact ⟨value, .inl ⟨asked, bound⟩⟩
    · exact ⟨reference.description, .inr ⟨asked, reference, isBeside, rfl, rfl⟩⟩
  · rintro ⟨description, ⟨asked, bound⟩ | ⟨asked, reference, isBeside, isNamed, _⟩⟩
    · exact .inl ⟨asked, description, bound⟩
    · exact .inr ⟨asked, reference, isBeside, isNamed⟩

/-- The variables to offer in place of a span of a line, not sorted yet. -/
def variablesAt (document : Document) (environment : Environment) (settings : CompletionSettings)
    (index : Nat) (current : Span) : List CompletionItem :=
  Completion.variableItems document environment settings
    ⟨document.lineStart index + current.start, document.lineStart index + current.stop⟩

section VariablesAt

variable (isCurrent : current ∈ classify (document.line index))
  (isIdentifier : current.category = .identifier)

include isCurrent isIdentifier

theorem variablesAt_eq :
    document.variablesAt environment settings index current =
      (Completion.firstOfEach [] (document.candidates environment settings index current)).map
        fun entry => Completion.variableItem entry.1 entry.2 := by
  simp only [variablesAt, Completion.variableItems, linesVariables_eq isCurrent isIdentifier]
  rfl

theorem mem_variablesAt {item : CompletionItem} :
    item ∈ document.variablesAt environment settings index current ↔
      ∃ entry ∈ Completion.firstOfEach [] (document.candidates environment settings index current),
        Completion.variableItem entry.1 entry.2 = item := by
  rw [variablesAt_eq isCurrent isIdentifier, List.mem_map]

theorem isCandidate_of_mem_variablesAt {item : CompletionItem}
    (isItem : item ∈ document.variablesAt environment settings index current) :
    document.IsCandidate environment settings index current item.label := by
  rcases (mem_variablesAt isCurrent isIdentifier).mp isItem with ⟨entry, isFirst, rfl⟩
  have found := (Completion.mem_firstOfEach.mp isFirst).2
  exact isCandidate_iff.mpr ⟨entry.2, List.mem_of_find?_eq_some found⟩

theorem exists_mem_variablesAt
    (isCandidate : document.IsCandidate environment settings index current name) :
    ∃ item ∈ document.variablesAt environment settings index current,
      Text.asciiUpper item.label = Text.asciiUpper name := by
  rcases isCandidate_iff.mp isCandidate with ⟨description, isEntry⟩
  rcases Completion.exists_mem_firstOfEach isEntry with ⟨first, isFirst, sameName⟩
  exact ⟨_, (mem_variablesAt isCurrent isIdentifier).mpr ⟨first, isFirst, rfl⟩, sameName⟩

/-- There is something to offer if there is a candidate. -/
theorem variablesAt_eq_nil_iff :
    document.variablesAt environment settings index current = [] ↔
      ∀ name, ¬document.IsCandidate environment settings index current name := by
  constructor
  · intro nothing name isCandidate
    rcases exists_mem_variablesAt isCurrent isIdentifier isCandidate with ⟨item, isItem, _⟩
    simp [nothing] at isItem
  · intro noCandidate
    apply List.eq_nil_iff_forall_not_mem.mpr
    intro item isItem
    exact noCandidate item.label (isCandidate_of_mem_variablesAt isCurrent isIdentifier isItem)

end VariablesAt

variable {caret : Nat} {span : Span}

end Document

end BatchLens
