import BatchLens.Batch.Hover
import BatchLens.Environment.Fixed
import BatchLens.Proofs.Batch.Grammar
import BatchLens.Proofs.Batch.KeywordTable
import BatchLens.Proofs.Batch.Precedence
import BatchLens.Proofs.Offset

/-!
# Hovering over keywords

A keyword is found in any case, where the long s and the Kelvin sign count as letters of ASCII
(`exists_spells_of_mem_candidates`). Its description is looked up by its lower case, in which the
Kelvin sign has become a letter of ASCII and the long s has not (`describe?_lowercase`). So every
keyword under the pointer shows its description, unless it is written with a long s
(`hover?_of_pointsAt`).
-/

namespace BatchLens

namespace Hover

/-- How the text of a keyword is written: the name of an entry in any case, behind an at sign or
not. -/
structure Spells (text sign name : Text) (entry : Keyword) : Prop where
  text_eq : text = sign ++ name
  isSign : sign = [] ∨ sign = ['@']
  isEntry : entry ∈ Keyword.table
  folds : name.map Unicode.foldToAscii = entry.name

section Spells

variable {entry : Keyword} {text sign name : Text}

theorem Spells.not_isWhiteSpace (spells : Spells text sign name entry) :
    ∀ c ∈ text, Unicode.isWhiteSpace c = false := by
  have areLabelChars := Grammar.isLabelChar_of_map spells.folds
    (Grammar.isLabelChar_of_mem_names (List.mem_map_of_mem spells.isEntry)).2
  intro c isIn
  rw [spells.text_eq] at isIn
  rcases List.mem_append.mp isIn with inSign | inName
  · rcases spells.isSign with rfl | rfl
    · exact absurd inSign List.not_mem_nil
    · rw [List.mem_singleton.mp inSign]
      decide
  · simpa [Grammar.isSolid] using Grammar.isSolid_of_isLabelChar (areLabelChars c inName)

theorem Spells.dropLeading_eq (spells : Spells text sign name entry) :
    Text.dropLeading '@' text = name := by
  rcases spells with ⟨rfl, rfl | rfl, isEntry, folds⟩
  · cases name with
    | nil => rfl
    | cons c rest =>
        have notSign : (c == '@') = false := by
          apply beq_false_of_ne
          rintro rfl
          exact absurd (Keyword.isLower_of_folds isEntry folds '@' List.mem_cons_self) (by decide)
        rw [List.nil_append, Text.dropLeading, notSign, if_neg Bool.false_ne_true]
  · rfl

theorem Spells.keywordContents?_eq (spells : Spells text sign name entry) :
    keywordContents? text = if 'ſ' ∈ name then none else some [entry.description] := by
  rw [keywordContents?, Text.trim_of_forall_not spells.not_isWhiteSpace, spells.dropLeading_eq,
    Keyword.describe?_lowercase spells.isEntry spells.folds]
  split <;> rfl

end Spells

theorem variableContents?_eq_none {environment : Environment} (settings : HoverSettings)
    {text : Text} (noValue : ∀ value ∈ environment.value? (variableName text), value = []) :
    variableContents? environment settings text = none := by
  rw [variableContents?]
  cases known : environment.value? (variableName text) with
  | none => rfl
  | some value =>
      obtain rfl := noValue value known
      rfl

end Hover

namespace Classification

/-- A token of the keywords is the name of an entry in any case, behind an at sign or not. -/
theorem exists_spells_of_mem_candidates {line : Text} {span : Span}
    (isToken : span ∈ candidates line .keyword) :
    ∃ sign name entry, Hover.Spells (span.text line) sign name entry := by
  rcases exists_prefers_of_mem_candidates isToken with
    ⟨before, taken, behind, token, rfl, prefers, rfl⟩
  rcases Grammar.of_takes_keyword prefers.takes with
    ⟨space, sign, name, rfl, _, isSign, isName, _, rfl⟩
  rcases List.mem_map.mp isName with ⟨entry, isEntry, same⟩
  refine ⟨sign, name, entry, ?_, isSign, isEntry, same.symm⟩
  have covers := Span.covers_ofRange .keyword (before ++ space) (sign ++ name) behind
  simp only [List.append_assoc] at covers ⊢
  exact covers.text_under

end Classification

namespace Document

/-- A span under the pointer: the character behind the offset lies inside it. -/
structure PointsAt (document : Document) (offset : Nat) (span : Span) : Prop where
  isSpan : span ∈ classify (document.line (document.lineOfOffset offset))
  contains : span.contains
    (document.clamp offset - document.lineStart (document.lineOfOffset offset)) = true

/-- No variable under the pointer has a value that is not empty. -/
def ShowsNoVariable (document : Document) (environment : Environment) (offset : Nat) : Prop :=
  ∀ span, document.PointsAt offset span → span.category = .identifier →
    ∀ value ∈ environment.value?
      (Hover.variableName (span.text (document.line (document.lineOfOffset offset)))), value = []

variable {document : Document} {environment : Environment} {settings : HoverSettings}
  {offset : Nat} {span : Span}

theorem PointsAt.spanAt? (pointsAt : document.PointsAt offset span) :
    Hover.spanAt? (classify (document.line (document.lineOfOffset offset))) span.category
      (document.clamp offset - document.lineStart (document.lineOfOffset offset)) = some span :=
  Classification.find?_contains pointsAt.isSpan pointsAt.contains

/-- Where no variable with a value is under the pointer, a keyword there shows its contents. -/
theorem ShowsNoVariable.hover?_eq (noVariable : document.ShowsNoVariable environment offset)
    (settings : HoverSettings) :
    document.hover? environment settings offset =
      (Hover.spanAt? (classify (document.line (document.lineOfOffset offset))) .keyword
        (document.clamp offset - document.lineStart (document.lineOfOffset offset))).bind
        fun span =>
          (Hover.keywordContents?
              (span.text (document.line (document.lineOfOffset offset)))).map
            fun contents =>
              ⟨⟨document.lineStart (document.lineOfOffset offset) + span.start,
                document.lineStart (document.lineOfOffset offset) + span.stop⟩, contents⟩ := by
  simp only [hover?, hoverAmong?, lineOfOffset_clamp, Option.bind_eq_bind, Option.map_eq_bind]
  cases found : Hover.spanAt? (classify (document.line (document.lineOfOffset offset))) .identifier
      (document.clamp offset - document.lineStart (document.lineOfOffset offset)) with
  | none => rfl
  | some other =>
      have passes := List.find?_some found
      rw [Bool.and_eq_true, beq_iff_eq] at passes
      have pointsAtOther : document.PointsAt offset other :=
        ⟨List.mem_of_find?_eq_some found, passes.2⟩
      have noContents :=
        Hover.variableContents?_eq_none settings (noVariable other pointsAtOther passes.1)
      simp only [Option.bind_some, noContents, Option.bind_none, Option.none_or]
      rfl

theorem PointsAt.hover?_eq (pointsAt : document.PointsAt offset span)
    (isKeyword : span.category = .keyword)
    (noVariable : document.ShowsNoVariable environment offset) :
    document.hover? environment settings offset =
      (Hover.keywordContents? (span.text (document.line (document.lineOfOffset offset)))).map
        fun contents =>
          ⟨⟨document.lineStart (document.lineOfOffset offset) + span.start,
            document.lineStart (document.lineOfOffset offset) + span.stop⟩, contents⟩ := by
  have onKeyword := pointsAt.spanAt?
  rw [isKeyword] at onKeyword
  rw [noVariable.hover?_eq, onKeyword, Option.bind_some]

/-- A keyword under the pointer shows what the entry of its name is for, and nothing if its name is
written with a long s. -/
theorem hover?_of_pointsAt (pointsAt : document.PointsAt offset span)
    (isKeyword : span.category = .keyword)
    (noVariable : document.ShowsNoVariable environment offset) :
    ∃ sign name, ∃ entry ∈ Keyword.table,
      span.text (document.line (document.lineOfOffset offset)) = sign ++ name ∧
      (sign = [] ∨ sign = ['@']) ∧
      (∀ other ∈ Keyword.table, name.map Unicode.foldToAscii = other.name ↔ other = entry) ∧
      document.hover? environment settings offset =
        if 'ſ' ∈ name then none
        else
          some ⟨⟨document.lineStart (document.lineOfOffset offset) + span.start,
            document.lineStart (document.lineOfOffset offset) + span.stop⟩,
            [entry.description]⟩ := by
  have isToken := Classification.mem_candidates_category pointsAt.isSpan
  rw [isKeyword] at isToken
  rcases Classification.exists_spells_of_mem_candidates isToken with ⟨sign, name, entry, spells⟩
  have isEntry := spells.isEntry
  have folds := spells.folds
  refine ⟨sign, name, entry, isEntry, spells.text_eq, spells.isSign, ?_, ?_⟩
  · intro other isOther
    constructor
    · intro foldsToOther
      exact Keyword.eq_of_name_eq isOther isEntry (foldsToOther.symm.trans folds)
    · rintro rfl
      exact folds
  · rw [pointsAt.hover?_eq isKeyword noVariable, spells.keywordContents?_eq]
    split <;> rfl

/-- A name that is assigned to may be a keyword as well, and is one to the pointer while the
variable is empty. -/
theorem hover?_of_pointsAt_empty_variable :
    let document : Document := ⟨"@echo off\r\n@SET echo=%1".toList⟩
    let environment := (FixedEnvironment.ofList [("ECHO".toList, [])]).toEnvironment
    document.PointsAt 17 ⟨5, 4, .keyword⟩ ∧ document.PointsAt 17 ⟨5, 4, .identifier⟩ ∧
      ∃ sign name, ∃ entry ∈ Keyword.table, "echo".toList = sign ++ name ∧
        (sign = [] ∨ sign = ['@']) ∧
        (∀ other ∈ Keyword.table, name.map Unicode.foldToAscii = other.name ↔ other = entry) ∧
        document.hover? environment {} 17 =
          if 'ſ' ∈ name then none else some ⟨⟨16, 20⟩, [entry.description]⟩ := by
  intro document environment
  have pointsAt : document.PointsAt 17 ⟨5, 4, .keyword⟩ :=
    ⟨by decide +kernel, by decide +kernel⟩
  have noValue : ∀ other ∈ classify (document.line (document.lineOfOffset 17)),
      other.category = .identifier → ∀ value ∈ environment.value?
        (Hover.variableName (other.text (document.line (document.lineOfOffset 17)))),
        value = [] := by
    decide +kernel
  have noVariable : document.ShowsNoVariable environment 17 := fun other pointsAtOther =>
    noValue other pointsAtOther.isSpan
  refine ⟨pointsAt, ⟨by decide +kernel, by decide +kernel⟩, ?_⟩
  exact hover?_of_pointsAt pointsAt rfl noVariable

/-- A long s is a letter of a keyword, but not of any name that is looked up. -/
theorem not_hover?_of_pointsAt :
    ¬∀ (document : Document) (environment : Environment) (settings : HoverSettings)
        (offset : Nat) (span : Span),
      document.PointsAt offset span → span.category = .keyword →
      document.ShowsNoVariable environment offset →
      ∃ sign name, ∃ entry ∈ Keyword.table,
        span.text (document.line (document.lineOfOffset offset)) = sign ++ name ∧
        (sign = [] ∨ sign = ['@']) ∧ name.map Unicode.foldToAscii = entry.name ∧
        document.hover? environment settings offset =
          some ⟨⟨document.lineStart (document.lineOfOffset offset) + span.start,
            document.lineStart (document.lineOfOffset offset) + span.stop⟩,
            [entry.description]⟩ := by
  intro allShow
  have pointsAt : Document.PointsAt ⟨"ſet".toList⟩ 0 ⟨0, 4, .keyword⟩ :=
    ⟨by decide +kernel, by decide +kernel⟩
  have noVariable :
      Document.ShowsNoVariable ⟨"ſet".toList⟩ FixedEnvironment.empty.toEnvironment 0 := by
    intro other _ _ value isValue
    exact absurd isValue (by simp [FixedEnvironment.toEnvironment, FixedEnvironment.value?,
      FixedEnvironment.empty, FixedEnvironment.index?])
  rcases allShow _ _ {} 0 _ pointsAt rfl noVariable with ⟨_, _, entry, _, _, _, _, answered⟩
  have noAnswer :
      Document.hover? ⟨"ſet".toList⟩ FixedEnvironment.empty.toEnvironment {} 0 = none := by
    decide +kernel
  exact absurd (noAnswer.symm.trans answered) (by simp)

end Document

end BatchLens
