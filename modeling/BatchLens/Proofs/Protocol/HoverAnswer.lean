import BatchLens.Proofs.Batch.KeywordHover
import BatchLens.Proofs.Batch.Ranges
import BatchLens.Proofs.Checked.Hover
import BatchLens.Proofs.LinePartition
import BatchLens.Proofs.Protocol.LineRange
import BatchLens.Protocol.Answer

/-!
# What a hover text says

At most one variable name and at most one keyword stand under the pointer, so that the order of the
spans decides nothing (`spanAt?_perm`). The variable is shown if it has a value that is not empty,
or else the keyword if its name is in the table. What is shown is about a part of one line, and an
editor is told of it by positions on that line that lead back to it.
-/

namespace BatchLens

namespace Classification

variable {text : Text} {category : Category} {column : Nat}

theorem length_le_one_of_nodup {spans : List Span} (once : spans.Nodup)
    (same : ∀ span ∈ spans, ∀ other ∈ spans, span = other) : spans.length ≤ 1 := by
  match spans with
  | [] => simp
  | [_] => simp
  | first :: second :: others =>
      have equal := same first (by simp) second (by simp)
      simp [equal] at once

/-- At most one span of a category contains a column. -/
theorem length_filter_contains_le (text : Text) (category : Category) (column : Nat) :
    ((classify text).filter fun span =>
      span.category == category && span.contains column).length ≤ 1 := by
  rcases classify_cases text with ⟨comment, _, _, alone⟩ | ⟨notAtStart, _⟩
  · rw [alone]
    exact List.length_filter_le _ _
  · apply length_le_one_of_nodup ((nodup_classify notAtStart).filter _)
    intro span isFound other isOther
    simp only [List.mem_filter, Bool.and_eq_true, beq_iff_eq] at isFound isOther
    rcases isFound with ⟨isSpan, isCategory, contains⟩
    rcases isOther with ⟨isOtherSpan, isSameCategory, otherContains⟩
    exact eq_of_contains isSpan isOtherSpan (isSameCategory.trans isCategory.symm) contains
      otherContains

theorem spanAt?_perm {reordered : List Span} (permuted : reordered.Perm (classify text)) :
    Hover.spanAt? reordered category column = Hover.spanAt? (classify text) category column := by
  have atMostOne := length_filter_contains_le text category column
  have permuted := permuted.filter fun span => span.category == category && span.contains column
  rw [Hover.spanAt?, Hover.spanAt?, ← List.head?_filter, ← List.head?_filter]
  generalize (classify text).filter (fun span =>
    span.category == category && span.contains column) = found at atMostOne permuted
  match found with
  | [] => rw [permuted.eq_nil]
  | [_] => rw [List.perm_singleton.mp permuted]
  | _ :: _ :: _ => exact absurd atMostOne (by simp)

theorem not_isWhiteSpace_of_identifier {span : Span} (isSpan : span ∈ classify text)
    (isIdentifier : span.category = .identifier) :
    ∀ c ∈ span.text text, Unicode.isWhiteSpace c = false := by
  have isToken := mem_candidates_category isSpan
  rw [isIdentifier] at isToken
  rcases exists_prefers_of_mem_candidates isToken with
    ⟨before, taken, behind, token, rfl, prefers, rfl⟩
  rcases Grammar.of_takes_identifier prefers.takes with ⟨context, name, rest, rfl, areSolid, rfl⟩
  have covers := Span.covers_ofRange .identifier (before ++ context) name (rest ++ behind)
  have parts : before ++ (context ++ name ++ rest) ++ behind =
      before ++ context ++ name ++ (rest ++ behind) := by simp
  intro c isIn
  rw [parts, Pattern.reported, Option.getD_some, covers.text_under] at isIn
  simpa [Grammar.isSolid] using areSolid c isIn

end Classification

namespace Hover

/-- A value as it is shown: the directories of the search path, if wanted, one on each line. -/
def shown (settings : HoverSettings) (name value : Text) : Text :=
  if settings.splitPath = true ∧ Text.sameIgnoringAsciiCase name "path".toList = true then
    ['\n'].intercalate ((value.splitOn ';').filter (· ≠ []))
  else value

theorem split_eq_splitOn (mark : Char) (text : Text) :
    Text.split mark text = text.splitOn mark := by
  induction text with
  | nil => rfl
  | cons c rest ih =>
      rw [Text.split, ih, List.splitOn, List.splitOn, List.splitOnP_cons_eq_if_modifyHead]
      split
      next => rfl
      next =>
        cases parts : rest.splitOnP (· == mark) with
        | nil => exact absurd parts (List.splitOnP_ne_nil _ _)
        | cons part others => rfl

theorem join_eq_intercalate (mark : Char) (parts : List Text) :
    Text.join mark parts = [mark].intercalate parts := by
  fun_induction Text.join mark parts with
  | case1 => rfl
  | case2 part => simp
  | case3 part parts nonempty ih =>
      cases parts with
      | nil => exact absurd rfl nonempty
      | cons next others => simp [ih, List.intercalate_cons_cons]

theorem splitPath_eq (value : Text) :
    splitPath value = ['\n'].intercalate ((value.splitOn ';').filter (· ≠ [])) := by
  rw [splitPath, join_eq_intercalate, split_eq_splitOn]
  congr 1
  apply List.filter_congr
  intro directory _
  cases directory <;> simp

theorem variableName_eq {text : Text} (solid : ∀ c ∈ text, Unicode.isWhiteSpace c = false) :
    variableName text = Text.trim (· == '%') text := by
  rw [variableName, Text.trim_of_forall_not solid]

theorem variableContents?_of_value {environment : Environment} (settings : HoverSettings)
    {text value : Text} (solid : ∀ c ∈ text, Unicode.isWhiteSpace c = false)
    (isValue : environment.value? (Text.trim (· == '%') text) = some value)
    (nonempty : value ≠ []) :
    variableContents? environment settings text =
      some (shown settings (Text.trim (· == '%') text) value ::
        if settings.showExpanded = true ∧ environment.expand value ≠ value then
          [shown settings (Text.trim (· == '%') text) (environment.expand value)]
        else []) := by
  have name := variableName_eq solid
  have render (value : Text) :
      (if settings.splitPath = true ∧
          Text.sameIgnoringAsciiCase (variableName text) "path".toList = true then splitPath
        else id) value = shown settings (variableName text) value := by
    rw [shown, ← splitPath_eq]
    split <;> rfl
  have notEmpty : ¬List.isEmpty value = true := by simpa using nonempty
  rw [← name] at isValue ⊢
  simp only [variableContents?, isValue, Option.bind_eq_bind, Option.bind_some, if_neg notEmpty,
    Bool.and_eq_true, bne_iff_ne, render]
  split <;> rfl

/-- A keyword shows the description of the entry whose name is its lower case, if there is one. -/
theorem Spells.keywordContents?_eq_some_iff {entry : Keyword} {text sign name : Text}
    {contents : List Text} (spells : Spells text sign name entry) :
    keywordContents? text = some contents ↔
      ∃ keyword ∈ Keyword.table, keyword.name = Unicode.lowercase (Text.dropLeading '@' text) ∧
        [keyword.description] = contents := by
  have isSmall := Keyword.asciiLower_lowercase spells.isEntry spells.folds
  simp only [keywordContents?, Text.trim_of_forall_not spells.not_isWhiteSpace,
    spells.dropLeading_eq, Keyword.describe?, Option.bind_eq_bind, Option.bind_map,
    Option.bind_eq_some_iff, Function.comp_apply, Option.some.injEq,
    Keyword.find?_eq_some_iff isSmall, and_assoc]

end Hover

namespace Document

variable {document : Document} {environment : Environment} {settings : HoverSettings}
  {offset : Nat} {span : Span} {value : Text} {keyword : Keyword} {hover : Hover}

/-- A variable under the pointer with a value that is not empty. -/
structure ShowsVariable (document : Document) (environment : Environment) (offset : Nat)
    (span : Span) (value : Text) : Prop where
  pointsAt : document.PointsAt offset span
  isIdentifier : span.category = .identifier
  isValue : environment.value? (Text.trim (· == '%')
    (span.text (document.line (document.lineOfOffset offset)))) = some value
  nonempty : value ≠ []

/-- A keyword under the pointer whose name is in the table. -/
structure ShowsKeyword (document : Document) (offset : Nat) (span : Span) (keyword : Keyword) :
    Prop where
  pointsAt : document.PointsAt offset span
  isKeyword : span.category = .keyword
  isEntry : keyword ∈ Keyword.table
  name_eq : keyword.name = Unicode.lowercase
    (Text.dropLeading '@' (span.text (document.line (document.lineOfOffset offset))))

/-! ## What is shown -/

theorem ShowsVariable.hover?_eq (shows : document.ShowsVariable environment offset span value)
    (settings : HoverSettings) :
    let line := document.line (document.lineOfOffset offset)
    let start := document.lineStart (document.lineOfOffset offset)
    let name := Text.trim (· == '%') (span.text line)
    document.hover? environment settings offset =
      some ⟨⟨start + span.start, start + span.stop⟩, Hover.shown settings name value ::
        if settings.showExpanded = true ∧ environment.expand value ≠ value then
          [Hover.shown settings name (environment.expand value)]
        else []⟩ := by
  intro line start name
  have onVariable := shows.pointsAt.spanAt?
  rw [shows.isIdentifier] at onVariable
  have solid := Classification.not_isWhiteSpace_of_identifier shows.pointsAt.isSpan
    shows.isIdentifier
  have contents := Hover.variableContents?_of_value settings solid shows.isValue shows.nonempty
  simp only [hover?, hoverAmong?, lineOfOffset_clamp, onVariable, contents, Option.bind_eq_bind,
    Option.bind_some, Option.some_or]
  rfl

theorem showsNoVariable_of_forall_not
    (noVariable : ∀ span value, ¬document.ShowsVariable environment offset span value) :
    document.ShowsNoVariable environment offset := by
  intro span pointsAt isIdentifier value isValue
  rw [Hover.variableName_eq
    (Classification.not_isWhiteSpace_of_identifier pointsAt.isSpan isIdentifier)] at isValue
  by_contra nonempty
  exact noVariable span value ⟨pointsAt, isIdentifier, isValue, nonempty⟩

theorem PointsAt.exists_spells (pointsAt : document.PointsAt offset span)
    (isKeyword : span.category = .keyword) :
    ∃ sign name entry,
      Hover.Spells (span.text (document.line (document.lineOfOffset offset))) sign name entry := by
  have isToken := Classification.mem_candidates_category pointsAt.isSpan
  rw [isKeyword] at isToken
  exact Classification.exists_spells_of_mem_candidates isToken

theorem ShowsKeyword.hover?_eq (shows : document.ShowsKeyword offset span keyword)
    (noVariable : document.ShowsNoVariable environment offset) (settings : HoverSettings) :
    let start := document.lineStart (document.lineOfOffset offset)
    document.hover? environment settings offset =
      some ⟨⟨start + span.start, start + span.stop⟩, [keyword.description]⟩ := by
  intro start
  rcases shows.pointsAt.exists_spells shows.isKeyword with ⟨sign, name, entry, spells⟩
  have contents := spells.keywordContents?_eq_some_iff.mpr
    ⟨keyword, shows.isEntry, shows.name_eq, rfl⟩
  rw [shows.pointsAt.hover?_eq shows.isKeyword noVariable, contents]
  rfl

theorem hover?_eq_none (noVariable : document.ShowsNoVariable environment offset)
    (noKeyword : ∀ span keyword, ¬document.ShowsKeyword offset span keyword) :
    document.hover? environment settings offset = none := by
  rw [noVariable.hover?_eq, Option.bind_eq_none_iff]
  intro span found
  have passes := List.find?_some found
  rw [Bool.and_eq_true, beq_iff_eq] at passes
  have pointsAt : document.PointsAt offset span := ⟨List.mem_of_find?_eq_some found, passes.2⟩
  rcases pointsAt.exists_spells passes.1 with ⟨sign, name, entry, spells⟩
  rw [Option.map_eq_none_iff, Option.eq_none_iff_forall_ne_some]
  intro contents shown
  rcases spells.keywordContents?_eq_some_iff.mp shown with ⟨keyword, isEntry, nameEq, _⟩
  exact noKeyword span keyword ⟨pointsAt, passes.1, isEntry, nameEq⟩

/-- What is shown is about a span under the pointer. -/
theorem exists_pointsAt_of_hover?
    (answered : document.hover? environment settings offset = some hover) :
    ∃ span, document.PointsAt offset span ∧
      hover.range = ⟨document.lineStart (document.lineOfOffset offset) + span.start,
        document.lineStart (document.lineOfOffset offset) + span.stop⟩ := by
  by_cases isVariable : ∃ span value, document.ShowsVariable environment offset span value
  · rcases isVariable with ⟨span, value, shows⟩
    refine ⟨span, shows.pointsAt, ?_⟩
    rw [shows.hover?_eq settings] at answered
    rw [← Option.some.inj answered]
  · have noVariable : document.ShowsNoVariable environment offset := by
      apply showsNoVariable_of_forall_not
      intro span value shows
      exact isVariable ⟨span, value, shows⟩
    by_cases isKeyword : ∃ span keyword, document.ShowsKeyword offset span keyword
    · rcases isKeyword with ⟨span, keyword, shows⟩
      refine ⟨span, shows.pointsAt, ?_⟩
      rw [shows.hover?_eq noVariable settings] at answered
      rw [← Option.some.inj answered]
    · have nothing : document.hover? environment settings offset = none := by
        apply hover?_eq_none noVariable
        intro span keyword shows
        exact isKeyword ⟨span, keyword, shows⟩
      rw [nothing] at answered
      exact absurd answered (by simp)

/-- The variable under the pointer is shown if it has a value that is not empty, or else the
keyword there if it is in the table. There is at most one of each, in whatever order the spans of
the line are, and what is shown is about the span that is under the pointer. The range of the answer
leads back to that span as long as the number of its line, and the units of the line, can be told in
32 bits. -/
theorem hover?_under_pointer (document : Document) (environment : Environment)
    (settings : HoverSettings) (offset : Nat) :
    let index := document.lineOfOffset offset
    let line := document.line index
    let start := document.lineStart index
    (∀ category, ((classify line).filter fun span =>
      span.category == category && span.contains (document.clamp offset - start)).length ≤ 1) ∧
    (∀ reordered, reordered.Perm (classify line) →
      document.hoverAmong? environment settings offset reordered =
        document.hover? environment settings offset) ∧
    (∀ span value, document.ShowsVariable environment offset span value →
      let name := Text.trim (· == '%') (span.text line)
      document.hover? environment settings offset =
        some ⟨⟨start + span.start, start + span.stop⟩, Hover.shown settings name value ::
          if settings.showExpanded = true ∧ environment.expand value ≠ value then
            [Hover.shown settings name (environment.expand value)]
          else []⟩) ∧
    ((∀ span value, ¬document.ShowsVariable environment offset span value) →
      (∀ span keyword, document.ShowsKeyword offset span keyword →
        document.hover? environment settings offset =
          some ⟨⟨start + span.start, start + span.stop⟩, [keyword.description]⟩) ∧
      ((∀ span keyword, ¬document.ShowsKeyword offset span keyword) →
        document.hover? environment settings offset = none)) ∧
    ∀ hover, document.hover? environment settings offset = some hover →
      document.InLine index hover.range ∧
      hover.range.start ≤ document.clamp offset ∧ document.clamp offset < hover.range.stop ∧
      ∀ encoding, ∃ positions,
        document.hoverAnswer encoding hover = .hover hover.contents positions ∧
        document.Tells encoding index hover.range positions := by
  intro index line start
  refine ⟨?_, ?_, ?_, ?_, ?_⟩
  · intro category
    exact Classification.length_filter_contains_le line category _
  · intro reordered permuted
    simp only [hover?, hoverAmong?, lineOfOffset_clamp, Classification.spanAt?_perm permuted]
    rfl
  · intro span value shows
    exact shows.hover?_eq settings
  · intro noVariable
    have showsNoVariable := showsNoVariable_of_forall_not noVariable
    constructor
    · intro span keyword shows
      exact shows.hover?_eq showsNoVariable settings
    · exact hover?_eq_none showsNoVariable
  · intro hover answered
    rcases exists_pointsAt_of_hover? answered with ⟨span, pointsAt, range⟩
    have isLine : index < document.lineCount := document.lineOfOffset_lt offset
    have part := isPart_of_mem_classify pointsAt.isSpan
    have before := (document.lineOfOffset_holds offset).1
    have contains := pointsAt.contains
    simp only [Span.contains, Bool.and_eq_true, decide_eq_true_eq] at contains
    rw [range]
    refine ⟨inLine_of_isPart isLine part, ?_, ?_, ?_⟩
    · simp only
      omega
    · simp only
      omega
    · intro encoding
      refine ⟨_, rfl, ?_⟩
      rw [range]
      exact tells_of_isPart isLine part encoding

/-- The search path, under a name in another case, with a directory that is empty and one that has
to be expanded. -/
example :
    hover? ⟨"cd %Path%".toList⟩
        (FixedEnvironment.ofList
          [("PATH".toList, "C:;;%X%".toList), ("X".toList, "D:".toList)]).toEnvironment {} 4 =
      some ⟨⟨3, 9⟩, ["C:\n%X%".toList, "C:\nD:".toList]⟩ := by
  decide +kernel

end Document

end BatchLens
