import Mathlib.Data.List.TakeDrop
import BatchLens.Environment.Process
import BatchLens.Proofs.Batch.VariableCandidates
import BatchLens.Proofs.Protocol.CompletionEdit
import BatchLens.Proofs.Protocol.HoverAnswer
import BatchLens.Proofs.Text.Utf8

/-!
# Looking up and listing the variables of a process

The environment of a process lists its readable variables, and looks a name up first as it is
written and then, up to the case of ASCII letters, among those that it lists. Text and bytes
correspond one to one, so the variable of exactly a name is listed if its value is readable
(`exactValue?_eq_some_iff`). A listed variable is thus found by its own name, and no name is found
that is not listed in some spelling (`value?_agrees_with_bindings`).

What a completion says of a variable of the environment is therefore what is shown for it under the
pointer.
-/

namespace BatchLens

namespace ProcessVariable

variable {entry : ProcessVariable} {name value : Text} {bytes : List UInt8}

theorem readable?_eq_some_iff :
    entry.readable? = some (name, value) ↔ entry = ofText name value := by
  rcases entry with ⟨nameBytes, valueBytes⟩
  simp only [readable?, ofText, Option.bind_eq_bind, Option.bind_eq_some_iff, Option.some.injEq,
    Prod.mk.injEq, Text.ofUtf8?_eq_some_iff, mk.injEq]
  constructor
  · rintro ⟨_, rfl, _, rfl, rfl, rfl⟩
    exact ⟨rfl, rfl⟩
  · rintro ⟨rfl, rfl⟩
    exact ⟨name, rfl, value, rfl, rfl, rfl⟩

@[simp]
theorem readable?_ofText (name value : Text) : (ofText name value).readable? = some (name, value) :=
  readable?_eq_some_iff.mpr rfl

theorem name_ofBytes? (isEntry : ofBytes? bytes = some entry) :
    entry.name ≠ [] ∧ ∀ byte ∈ entry.name, byte ∈ bytes := by
  cases bytes with
  | nil => exact absurd isEntry (by simp [ofBytes?])
  | cons first rest =>
      rw [ofBytes?, List.span_eq_takeWhile_dropWhile] at isEntry
      split at isEntry
      next => exact absurd isEntry (by simp)
      next name _ value parts =>
        obtain rfl := Option.some.inj isEntry
        obtain rfl := (Prod.mk.inj parts).1
        refine ⟨List.cons_ne_nil _ _, ?_⟩
        apply List.cons_subset_cons
        exact (List.takeWhile_prefix _).subset

end ProcessVariable

namespace ProcessEnvironment

variable {environment : ProcessEnvironment} {name spelling value : Text}

/-! ## Environments of processes -/

/-- The names of all variables, readable or not. -/
def names (environment : ProcessEnvironment) : List (List UInt8) :=
  environment.entries.map (·.name)

theorem mem_names {entry : ProcessVariable} (isEntry : entry ∈ environment.entries) :
    entry.name ∈ environment.names :=
  List.mem_map_of_mem isEntry

/-- What every environment of a process keeps to: no name is empty, and none contains a null byte,
which would end it. Each name stands there once. -/
structure IsWellFormed (environment : ProcessEnvironment) : Prop where
  nonempty : ∀ name ∈ environment.names, name ≠ []
  nullFree : ∀ name ∈ environment.names, 0 ∉ name
  once : environment.names.Nodup

/-- A variable that is set keeps its place, or comes behind all others. -/
theorem names_insert (environment : ProcessEnvironment) (entry : ProcessVariable) :
    (environment.insert entry).names =
      if entry.name ∈ environment.names then environment.names
      else environment.names ++ [entry.name] := by
  have isThere : environment.entries.any (·.name == entry.name) = true ↔
      entry.name ∈ environment.names := by
    simp [names]
  simp only [insert, isThere]
  split
  next =>
    rw [names, names, List.map_map]
    apply List.map_congr_left
    intro other _
    simp only [Function.comp_apply, beq_iff_eq]
    split
    next same => exact same.symm
    next => rfl
  next => simp [names]

theorem IsWellFormed.insert {entry : ProcessVariable} (wellFormed : environment.IsWellFormed)
    (nonempty : entry.name ≠ []) (nullFree : 0 ∉ entry.name) :
    (environment.insert entry).IsWellFormed := by
  by_cases isThere : entry.name ∈ environment.names
  · have names : (environment.insert entry).names = environment.names := by
      rw [names_insert, if_pos isThere]
    constructor <;> rw [names]
    · exact wellFormed.nonempty
    · exact wellFormed.nullFree
    · exact wellFormed.once
  · have names : (environment.insert entry).names = environment.names ++ [entry.name] := by
      rw [names_insert, if_neg isThere]
    constructor <;> rw [names]
    · exact List.forall_mem_append.mpr ⟨wellFormed.nonempty, by simpa using nonempty⟩
    · exact List.forall_mem_append.mpr ⟨wellFormed.nullFree, by simpa using nullFree⟩
    · rw [← List.concat_eq_append]
      exact wellFormed.once.concat isThere

/-- An environment is well-formed if it is made of variables that can be set. -/
theorem isWellFormed_ofList {entries : List ProcessVariable}
    (nonempty : ∀ entry ∈ entries, entry.name ≠ [])
    (nullFree : ∀ entry ∈ entries, 0 ∉ entry.name) : (ofList entries).IsWellFormed := by
  induction entries using List.reverseRecOn with
  | nil => exact ⟨nofun, nofun, .nil⟩
  | append_singleton entries entry ih =>
      rw [List.forall_mem_append, List.forall_mem_singleton] at nonempty nullFree
      rw [ofList, List.foldl_append]
      exact (ih nonempty.1 nullFree.1).insert nonempty.2 nullFree.2

theorem not_mem_of_mem_splitOn {mark : UInt8} {bytes part : List UInt8}
    (isPart : part ∈ bytes.splitOn mark) : mark ∉ part := by
  induction bytes generalizing part with
  | nil =>
      obtain rfl : part = [] := by simpa [List.splitOn, List.splitOnP_nil] using isPart
      exact List.not_mem_nil
  | cons byte rest ih =>
      rcases List.exists_cons_of_ne_nil (List.splitOnP_ne_nil (· == mark) rest) with
        ⟨first, others, parts⟩
      rw [List.splitOn, parts] at ih
      rw [List.splitOn, List.splitOnP_cons_eq_if_modifyHead, parts] at isPart
      split at isPart
      next =>
        rcases List.mem_cons.mp isPart with rfl | isOther
        · exact List.not_mem_nil
        · exact ih isOther
      next isByte =>
        rw [List.modifyHead_cons] at isPart
        rcases List.mem_cons.mp isPart with rfl | isOther
        · rw [List.mem_cons, not_or]
          exact ⟨fun same => isByte (by simp [same]), ih List.mem_cons_self⟩
        · exact ih (List.mem_cons_of_mem _ isOther)

/-- Of the block of a system, only the names have to be looked at. -/
theorem isWellFormed_ofBlock {block : List UInt8} (once : (ofBlock block).names.Nodup) :
    (ofBlock block).IsWellFormed := by
  have isNamed {name : List UInt8} (isName : name ∈ (ofBlock block).names) :
      name ≠ [] ∧ 0 ∉ name := by
    rcases List.mem_map.mp isName with ⟨entry, isEntry, rfl⟩
    rcases List.mem_filterMap.mp isEntry with ⟨part, isPart, read⟩
    rcases ProcessVariable.name_ofBytes? read with ⟨nonempty, inPart⟩
    exact ⟨nonempty, mt (inPart 0) (not_mem_of_mem_splitOn isPart)⟩
  exact ⟨fun _ isName => (isNamed isName).1, fun _ isName => (isNamed isName).2, once⟩

/-! ## What is listed -/

theorem mem_bindings_iff :
    (name, value) ∈ environment.bindings ↔
      ProcessVariable.ofText name value ∈ environment.entries := by
  simp only [bindings, List.mem_filterMap, ProcessVariable.readable?_eq_some_iff, exists_eq_right]

/-- The first variable that passes a test, among those that are listed. -/
theorem find?_bindings_eq_some_iff {test : Text × Text → Bool} :
    environment.bindings.find? test = some (spelling, value) ↔
      test (spelling, value) = true ∧
      ∃ earlier later,
        environment.entries = earlier ++ ProcessVariable.ofText spelling value :: later ∧
        ∀ other value, ProcessVariable.ofText other value ∈ earlier →
          test (other, value) = false := by
  have noneEarlier (earlier : List ProcessVariable) :
      (∀ entry ∈ earlier, (!Option.any test entry.readable?) = true) ↔
        ∀ other value, ProcessVariable.ofText other value ∈ earlier →
          test (other, value) = false := by
    constructor
    · intro fails other value isEarlier
      simpa using fails _ isEarlier
    · intro fails entry isEarlier
      cases read : entry.readable? with
      | none => rfl
      | some binding =>
          obtain rfl := ProcessVariable.readable?_eq_some_iff.mp read
          simpa using fails _ _ isEarlier
  simp only [bindings, List.find?_filterMap, Option.bind_eq_some_iff,
    ProcessVariable.readable?_eq_some_iff, List.find?_eq_some_iff_append, noneEarlier,
    exists_eq_right, ProcessVariable.readable?_ofText, Option.any_some]

/-! ## What is found -/

/-- Which value a name stands for: that of the variable of exactly this name if it is readable, and
otherwise that of the first readable variable whose name is the same up to the case of ASCII
letters. -/
inductive StandsFor (environment : ProcessEnvironment) (name value : Text) : Prop
  | exactly (isEntry : ProcessVariable.ofText name value ∈ environment.entries)
  | spelled (unreadable : ∀ value, ProcessVariable.ofText name value ∉ environment.entries)
      (earlier later : List ProcessVariable) (spelling : Text)
      (entries_eq :
        environment.entries = earlier ++ ProcessVariable.ofText spelling value :: later)
      (sameName : Text.sameIgnoringAsciiCase spelling name = true)
      (isFirst : ∀ other value, ProcessVariable.ofText other value ∈ earlier →
        Text.sameIgnoringAsciiCase other name = false)

theorem isName_iff : isName name = true ↔ name ≠ [] ∧ '=' ∉ name ∧ '\x00' ∉ name := by
  simp [isName, and_assoc]

section WellFormed

variable (wellFormed : environment.IsWellFormed)

include wellFormed

theorem exactValue?_eq_some_iff :
    environment.exactValue? name = some value ↔
      ProcessVariable.ofText name value ∈ environment.entries := by
  simp only [exactValue?, Option.bind_eq_bind, Option.bind_eq_some_iff, Text.ofUtf8?_eq_some_iff]
  constructor
  · rintro ⟨⟨nameBytes, valueBytes⟩, found, rfl⟩
    obtain rfl : nameBytes = name.toUtf8 := by simpa using List.find?_some found
    exact List.mem_of_find?_eq_some found
  · intro isEntry
    have isSome : (environment.entries.find? (·.name == name.toUtf8)).isSome = true := by
      rw [List.find?_isSome]
      exact ⟨_, isEntry, beq_self_eq_true _⟩
    rcases Option.isSome_iff_exists.mp isSome with ⟨entry, found⟩
    have isNamed : entry.name = name.toUtf8 := by simpa using List.find?_some found
    have same := List.inj_on_of_nodup_map wellFormed.once (List.mem_of_find?_eq_some found) isEntry
      isNamed
    rw [same] at found
    exact ⟨_, found, rfl⟩

theorem value?_eq_some_iff (isName : isName name = true) :
    environment.value? name = some value ↔ environment.StandsFor name value := by
  rw [value?, if_pos isName]
  split
  next exact found =>
    have isEntry := (exactValue?_eq_some_iff wellFormed).mp found
    constructor
    · intro same
      rw [← Option.some.inj same]
      exact .exactly isEntry
    · intro stands
      cases stands with
      | exactly isOther =>
          rw [← found]
          exact (exactValue?_eq_some_iff wellFormed).mpr isOther
      | spelled unreadable => exact absurd isEntry (unreadable exact)
  next notFound =>
    have unreadable (value : Text) :
        ProcessVariable.ofText name value ∉ environment.entries := by
      rw [← exactValue?_eq_some_iff wellFormed, notFound]
      simp
    simp only [Option.map_eq_some_iff, Prod.exists, exists_eq_right, find?_bindings_eq_some_iff]
    constructor
    · rintro ⟨spelling, sameName, earlier, later, entries, isFirst⟩
      exact .spelled unreadable earlier later spelling entries sameName isFirst
    · intro stands
      cases stands with
      | exactly isEntry => exact absurd isEntry (unreadable value)
      | spelled _ earlier later spelling entries sameName isFirst =>
          exact ⟨spelling, sameName, earlier, later, entries, isFirst⟩

/-- A name is found exactly if it is listed in some spelling. -/
theorem value?_isSome_iff (isName : isName name = true) :
    (environment.value? name).isSome = true ↔
      ∃ binding ∈ environment.bindings, Text.sameIgnoringAsciiCase binding.1 name = true := by
  rw [value?, if_pos isName]
  split
  next value found =>
    have isEntry := (exactValue?_eq_some_iff wellFormed).mp found
    refine iff_of_true rfl ⟨(name, value), mem_bindings_iff.mpr isEntry, ?_⟩
    simp [Text.sameIgnoringAsciiCase]
  next => rw [Option.isSome_map, List.find?_isSome]

theorem isName_of_mem_bindings (isBinding : (name, value) ∈ environment.bindings)
    (noEquals : '=' ∉ name) : isName name = true := by
  have isEntry := mem_bindings_iff.mp isBinding
  refine isName_iff.mpr ⟨?_, noEquals, ?_⟩
  · rintro rfl
    exact wellFormed.nonempty _ (mem_names isEntry) rfl
  · intro isNull
    apply wellFormed.nullFree _ (mem_names isEntry)
    exact List.mem_flatMap.mpr ⟨_, isNull, List.mem_singleton_self _⟩

theorem value?_of_mem_bindings (isBinding : (name, value) ∈ environment.bindings)
    (noEquals : '=' ∉ name) : environment.value? name = some value := by
  rw [value?_eq_some_iff wellFormed (isName_of_mem_bindings wellFormed isBinding noEquals)]
  exact .exactly (mem_bindings_iff.mp isBinding)

end WellFormed

end ProcessEnvironment

/-! ## What is offered and shown -/

/-- Under a name that the environment lists, its first variable of that name is offered. -/
theorem Completion.mem_bindings_of_mem_variableItems {document : Document}
    {environment : Environment} {settings : CompletionSettings} {current : ByteRange}
    {item : CompletionItem}
    (isItem : item ∈ variableItems document environment settings current)
    (asked : settings.environmentVariables = true)
    (isListed : ∃ value, (item.label, value) ∈ environment.bindings) :
    (item.label, item.description) ∈ environment.bindings := by
  rcases List.mem_map.mp isItem with ⟨⟨name, description⟩, isFirst, rfl⟩
  rcases isListed with ⟨value, isBinding⟩
  have isFound := (mem_firstOfEach.mp isFirst).2
  have isSome : (environment.bindings.find? (FixedEnvironment.isNamed name)).isSome = true := by
    rw [List.find?_isSome]
    exact ⟨_, isBinding, isNamed_iff.mpr rfl⟩
  rcases Option.isSome_iff_exists.mp isSome with ⟨binding, found⟩
  rw [if_pos asked, List.find?_append, found, Option.some_or, Option.some.injEq] at isFound
  rw [isFound] at found
  exact List.mem_of_find?_eq_some found

namespace Document

variable {document : Document} {environment : Environment}

theorem mem_bindings_of_complete? {settings : CompletionSettings} {caret : Nat}
    {set : CompletionSet} {item : CompletionItem}
    (answered : document.complete? environment settings caret = some set)
    (isItem : item ∈ set.items) (isVariable : item.kind = .variable)
    (asked : settings.environmentVariables = true)
    (isListed : ∃ value, (item.label, value) ∈ environment.bindings) :
    (item.label, item.description) ∈ environment.bindings := by
  rcases complete?_cases answered with ⟨span, _, offered⟩ | offered
  · exact Completion.mem_bindings_of_mem_variableItems
      (Completion.mem_of_setOf? offered isItem) asked isListed
  · rcases List.mem_map.mp (Completion.mem_of_setOf? offered isItem) with ⟨keyword, _, rfl⟩
    exact CompletionKind.noConfusion isVariable

end Document

/-- An environment of a process finds exactly the names that it lists in some spelling, and what is
listed by its own name. What is offered for one of its variables is the value that is found by the
label, and the first text that is shown for this name under the pointer. -/
theorem ProcessEnvironment.value?_agrees_with_bindings {environment : ProcessEnvironment}
    (wellFormed : environment.IsWellFormed) :
    (∀ name, name ≠ [] → '=' ∉ name → '\x00' ∉ name →
      ((environment.value? name).isSome = true ↔
        ∃ binding ∈ environment.bindings,
          Text.sameIgnoringAsciiCase binding.1 name = true) ∧
      ∀ value, environment.value? name = some value ↔ environment.StandsFor name value) ∧
    (∀ name value, (name, value) ∈ environment.bindings → '=' ∉ name →
      environment.value? name = some value) ∧
    ∀ document : Document, ∀ settings caret set,
      document.complete? environment.toEnvironment settings caret = some set →
      settings.environmentVariables = true →
      ∀ item ∈ set.items, item.kind = .variable →
        (∃ value, (item.label, value) ∈ environment.bindings) → '=' ∉ item.label →
        environment.value? item.label = some item.description ∧
        ∀ other : Document, ∀ offset span, other.PointsAt offset span →
          span.category = .identifier →
          Text.trim (· == '%') (span.text (other.line (other.lineOfOffset offset))) =
            item.label →
          item.description ≠ [] →
          ∀ settings, ∃ hover,
            other.hover? environment.toEnvironment settings offset = some hover ∧
            hover.contents.head? = some (Hover.shown settings item.label item.description) := by
  refine ⟨?_, ?_, ?_⟩
  · intro name nonempty noEquals noNull
    have isName := isName_iff.mpr ⟨nonempty, noEquals, noNull⟩
    exact ⟨value?_isSome_iff wellFormed isName, fun value => value?_eq_some_iff wellFormed isName⟩
  · intro name value isBinding noEquals
    exact value?_of_mem_bindings wellFormed isBinding noEquals
  · intro document settings caret set answered asked item isItem isVariable isListed noEquals
    have isBinding : (item.label, item.description) ∈ environment.bindings :=
      Document.mem_bindings_of_complete? answered isItem isVariable asked isListed
    have found := value?_of_mem_bindings wellFormed isBinding noEquals
    refine ⟨found, ?_⟩
    intro other offset span pointsAt isIdentifier isName nonempty settings
    have shows : other.ShowsVariable environment.toEnvironment offset span item.description := by
      refine ⟨pointsAt, isIdentifier, ?_, nonempty⟩
      rw [isName]
      exact found
    refine ⟨_, shows.hover?_eq settings, ?_⟩
    rw [List.head?_cons, isName]

/-- A search path under three spellings of its name, the first with a value that cannot be read. -/
def ProcessEnvironment.threeSpellings : ProcessEnvironment :=
  ofList [⟨Text.toUtf8 "Path".toList, [0x43, 0xFF]⟩,
    .ofText "PATH".toList "C:;D:".toList, .ofText "path".toList "E:".toList]

theorem ProcessEnvironment.value?_agrees_with_bindings_of_threeSpellings :
    threeSpellings.value? "Path".toList = some "C:;D:".toList ∧
    threeSpellings.value? "path".toList = some "E:".toList ∧
    ∃ set item,
      Document.complete? ⟨"%p%".toList⟩ threeSpellings.toEnvironment {} 2 = some set ∧
      item ∈ set.items ∧
      threeSpellings.value? item.label = some item.description ∧
      ∃ hover,
        Document.hover? ⟨"%PATH%".toList⟩ threeSpellings.toEnvironment {} 0 = some hover ∧
        hover.contents.head? = some "C:\nD:".toList := by
  have wellFormed : threeSpellings.IsWellFormed :=
    isWellFormed_ofList (by decide +kernel) (by decide +kernel)
  rcases value?_agrees_with_bindings wellFormed with ⟨found, listed, offered⟩
  have inCapitals : ("PATH".toList, "C:;D:".toList) ∈ threeSpellings.bindings := by decide +kernel
  have inSmall : ("path".toList, "E:".toList) ∈ threeSpellings.bindings := by decide +kernel
  have stands : threeSpellings.StandsFor "Path".toList "C:;D:".toList := by
    refine .spelled ?_ [⟨Text.toUtf8 "Path".toList, [0x43, 0xFF]⟩] _ "PATH".toList rfl rfl ?_
    · intro value isEntry
      have bindings : threeSpellings.bindings =
          [("PATH".toList, "C:;D:".toList), ("path".toList, "E:".toList)] := by decide +kernel
      have isBinding := mem_bindings_iff.mpr isEntry
      rw [bindings] at isBinding
      simp at isBinding
    · intro other value isEarlier
      have unreadable : (ProcessVariable.ofText other value).readable? = none := by
        rw [List.mem_singleton.mp isEarlier]
        decide +kernel
      simp at unreadable
  have answered : Document.complete? ⟨"%p%".toList⟩ threeSpellings.toEnvironment {} 2 =
      some ⟨⟨1, 2⟩, [Completion.variableItem "PATH".toList "C:;D:".toList]⟩ := by
    decide +kernel
  have pointsAt : Document.PointsAt ⟨"%PATH%".toList⟩ 0 ⟨0, 6, .identifier⟩ :=
    ⟨by decide +kernel, by decide +kernel⟩
  have shown := offered _ _ _ _ answered rfl _ List.mem_cons_self rfl ⟨_, inCapitals⟩ (by decide)
  rcases shown.2 _ _ _ pointsAt rfl (by decide +kernel) (by decide) {} with ⟨hover, isHover, first⟩
  have lines : Hover.shown {} "PATH".toList "C:;D:".toList = "C:\nD:".toList := by decide
  refine ⟨?_, ?_, _, _, answered, List.mem_cons_self, shown.1, hover, isHover, ?_⟩
  · exact ((found _ (by decide) (by decide) (by decide)).2 _).mpr stands
  · exact listed _ _ inSmall (by decide)
  · rw [first, ← lines]
    rfl

end BatchLens
