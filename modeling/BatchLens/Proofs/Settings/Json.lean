import BatchLens.Settings.Json
import BatchLens.Proofs.Json.Printer

/-!
# Settings in a file

A file may give any of the settings, in any order and among other keys, and what it leaves out has
its default (`GivenSettings.ofJson?_eq`). How a record is read depends on which members its object
has, and not on their order (`IsRecord.fields?_eq`). Settings that are printed give all fields, so
that printing and reading is a case of it (`parse?_written`).
-/

namespace BatchLens

namespace Json

/-! ## Records -/

/-- The members for the fields of a record that are given. -/
def givenMembers (fields : List (String × Option Json)) : List (Text × Json) :=
  fields.filterMap fun field => field.2.map (member field.1)

/-- Whether a value is an object with exactly these fields of a record, in any order and among
members with other keys. -/
def IsRecord (fields : List (String × Option Json)) (json : Json) : Prop :=
  ∃ members unknown, json = object members ∧ members.Perm (givenMembers fields ++ unknown) ∧
    ∀ member ∈ unknown, ∀ field ∈ fields, member.1 ≠ field.1.toList

/-- What a record says about a field that an object gives or leaves out. -/
def Field.ofOption : Option Json → Field
  | some value => .given value
  | none => .missing

theorem givenMembers_cons (field : String × Option Json) (others : List (String × Option Json)) :
    givenMembers (field :: others) =
      (field.2.map (member field.1)).toList ++ givenMembers others := by
  rcases field with ⟨name, - | value⟩ <;> rfl

theorem key_of_mem_givenMembers {fields : List (String × Option Json)} {member : Text × Json}
    (isMember : member ∈ givenMembers fields) : ∃ field ∈ fields, member.1 = field.1.toList := by
  rcases List.mem_filterMap.mp isMember with ⟨field, isField, isGiven⟩
  rcases Option.map_eq_some_iff.mp isGiven with ⟨value, _, rfl⟩
  exact ⟨field, isField, rfl⟩

/-- The members with the key of a field are those for this field. -/
theorem filter_givenMembers {fields : List (String × Option Json)} {name : String}
    {value : Option Json} (distinct : (fields.map (·.1.toList)).Nodup)
    (isField : (name, value) ∈ fields) :
    (givenMembers fields).filter (·.1 == name.toList) = (value.map (member name)).toList := by
  induction fields with
  | nil => exact absurd isField List.not_mem_nil
  | cons field others ih =>
      rw [List.map_cons, List.nodup_cons] at distinct
      rcases distinct with ⟨notLater, othersDistinct⟩
      rw [givenMembers_cons, List.filter_append]
      rcases List.mem_cons.mp isField with rfl | isLater
      · have noOther : (givenMembers others).filter (·.1 == name.toList) = [] := by
          rw [List.filter_eq_nil_iff]
          intro member isMember
          rcases key_of_mem_givenMembers isMember with ⟨field, isField, key⟩
          have isKey : field.1.toList ∈ others.map (·.1.toList) := List.mem_map_of_mem isField
          rw [key, beq_iff_eq]
          rintro same
          rw [same] at isKey
          exact notLater isKey
        rw [noOther, List.append_nil]
        cases value <;> simp [member]
      · have isOther : field.1.toList ≠ name.toList := by
          intro same
          rw [same] at notLater
          exact notLater (List.mem_map_of_mem isLater)
        have notHere : (field.2.map (member field.1)).toList.filter (·.1 == name.toList) = [] := by
          rcases field with ⟨key, - | value⟩ <;> simp_all [member]
        rw [notHere, List.nil_append, ih othersDistinct isLater]

theorem uniqueMember?_of_perm {fields : List (String × Option Json)}
    {members unknown : List (Text × Json)} {name : String} {value : Option Json}
    (distinct : (fields.map (·.1.toList)).Nodup)
    (sameMembers : members.Perm (givenMembers fields ++ unknown))
    (areOther : ∀ member ∈ unknown, ∀ field ∈ fields, member.1 ≠ field.1.toList)
    (isField : (name, value) ∈ fields) :
    uniqueMember? members name.toList = some (Field.ofOption value) := by
  have noOther : unknown.filter (·.1 == name.toList) = [] := by
    rw [List.filter_eq_nil_iff]
    intro member isIn
    simpa using areOther member isIn _ isField
  have found : (members.filter (·.1 == name.toList)).Perm (value.map (member name)).toList := by
    have filtered := sameMembers.filter (·.1 == name.toList)
    rwa [List.filter_append, noOther, List.append_nil, filter_givenMembers distinct isField]
      at filtered
  rw [uniqueMember?]
  cases value with
  | none => rw [List.perm_nil.mp found]; rfl
  | some value => rw [List.perm_singleton.mp found]; rfl

theorem mapM_eq_some_map {α β : Type} {read : α → Option β} {result : α → β} {values : List α}
    (reads : ∀ value ∈ values, read value = some (result value)) :
    values.mapM read = some (values.map result) := by
  induction values with
  | nil => rfl
  | cons value others ih =>
      rw [List.forall_mem_cons] at reads
      simp [List.mapM_cons, reads.1, ih reads.2]

/-- The fields of a record are found wherever they stand in the object. -/
theorem IsRecord.fields?_eq {fields : List (String × Option Json)} {json : Json}
    (isRecord : json.IsRecord fields) (distinct : (fields.map (·.1.toList)).Nodup) :
    json.fields? (fields.map (·.1)) = some (fields.map fun field => Field.ofOption field.2) := by
  rcases isRecord with ⟨members, unknown, rfl, sameMembers, areOther⟩
  have areFound : ∀ field ∈ fields,
      uniqueMember? members field.1.toList = some (Field.ofOption field.2) :=
    fun _ => uniqueMember?_of_perm distinct sameMembers areOther
  rw [fields?, List.mapM_map]
  exact mapM_eq_some_map areFound

/-- What an object says about a field is read as what is given, or as the default if nothing is. -/
theorem Field.withDefault_ofOption {α β : Type} {Writes : β → Json → Prop}
    {decode : Json → Option α} {meaning : β → α} (default : β)
    (reads : ∀ given json, Writes given json → decode json = some (meaning given))
    {given : Option β} {written : Option Json} (isWritten : Option.Rel Writes given written) :
    (Field.ofOption written).withDefault (meaning default) decode =
      some (meaning (given.getD default)) := by
  cases isWritten with
  | none => rfl
  | some isWritten => exact reads _ _ isWritten

theorem Field.withDefault_bool (default : Bool) (given : Option Bool) :
    (Field.ofOption (given.map .bool)).withDefault default bool? = some (given.getD default) := by
  cases given <;> rfl

end Json

/-! ## Settings that a file gives -/

/-- What a file gives of the settings for completion. -/
structure GivenCompletion where
  keywords : Option Bool := none
  environmentVariables : Option Bool := none
  documentVariables : Option Bool := none

namespace GivenCompletion

def IsWritten (given : GivenCompletion) (json : Json) : Prop :=
  json.IsRecord [
    ("keywords", given.keywords.map .bool),
    ("environment_variables", given.environmentVariables.map .bool),
    ("document_variables", given.documentVariables.map .bool)]

def complete (given : GivenCompletion) : CompletionSettings where
  keywords := given.keywords.getD true
  environmentVariables := given.environmentVariables.getD true
  documentVariables := given.documentVariables.getD true

theorem ofJson?_eq (given : GivenCompletion) (json : Json) (isWritten : given.IsWritten json) :
    CompletionSettings.ofJson? json = some given.complete := by
  have distinct : (["keywords", "environment_variables", "document_variables"].map
      String.toList).Nodup := by decide
  have found := Json.IsRecord.fields?_eq isWritten distinct
  simp only [List.map_cons, List.map_nil] at found
  rw [CompletionSettings.ofJson?, found]
  simp [Json.Field.withDefault_bool, complete]

end GivenCompletion

/-- What a file gives of the settings for hover texts. -/
structure GivenHover where
  splitPath : Option Bool := none
  showExpanded : Option Bool := none

namespace GivenHover

def IsWritten (given : GivenHover) (json : Json) : Prop :=
  json.IsRecord [
    ("split_path", given.splitPath.map .bool),
    ("show_expanded", given.showExpanded.map .bool)]

def complete (given : GivenHover) : HoverSettings where
  splitPath := given.splitPath.getD true
  showExpanded := given.showExpanded.getD true

theorem ofJson?_eq (given : GivenHover) (json : Json) (isWritten : given.IsWritten json) :
    HoverSettings.ofJson? json = some given.complete := by
  have distinct : (["split_path", "show_expanded"].map String.toList).Nodup := by decide
  have found := Json.IsRecord.fields?_eq isWritten distinct
  simp only [List.map_cons, List.map_nil] at found
  rw [HoverSettings.ofJson?, found]
  simp [Json.Field.withDefault_bool, complete]

end GivenHover

/-- What a file gives of the settings for pairs. -/
structure GivenPairing where
  enabled : Option Bool := none

namespace GivenPairing

def IsWritten (given : GivenPairing) (json : Json) : Prop :=
  json.IsRecord [("enabled", given.enabled.map .bool)]

def complete (given : GivenPairing) : PairingSettings where
  enabled := given.enabled.getD true

theorem ofJson?_eq (given : GivenPairing) (json : Json) (isWritten : given.IsWritten json) :
    PairingSettings.ofJson? json = some given.complete := by
  have distinct : (["enabled"].map String.toList).Nodup := by decide
  have found := Json.IsRecord.fields?_eq isWritten distinct
  simp only [List.map_cons, List.map_nil] at found
  rw [PairingSettings.ofJson?, found]
  simp [Json.Field.withDefault_bool, complete]

end GivenPairing

/-- What a file gives of all settings. A log filter that is given may be null. -/
structure GivenSettings where
  completion : Option GivenCompletion := none
  hover : Option GivenHover := none
  pairing : Option GivenPairing := none
  logFilter : Option (Option Text) := none

namespace GivenSettings

def filterJson : Option Text → Json
  | some filter => .string filter
  | none => .null

/-- The fields that are given are written in any order, among other keys with any values. -/
def IsWritten (given : GivenSettings) (json : Json) : Prop :=
  ∃ completion hover pairing,
    Option.Rel GivenCompletion.IsWritten given.completion completion ∧
    Option.Rel GivenHover.IsWritten given.hover hover ∧
    Option.Rel GivenPairing.IsWritten given.pairing pairing ∧
    json.IsRecord [
      ("completion", completion),
      ("quick_info", hover),
      ("type_through", pairing),
      ("log_filter", given.logFilter.map filterJson)]

/-- The settings that are given, with the default for every field that is left out. -/
def complete (given : GivenSettings) : Settings where
  completion := (given.completion.getD {}).complete
  hover := (given.hover.getD {}).complete
  pairing := (given.pairing.getD {}).complete
  logFilter := given.logFilter.getD none

theorem ofJson?_eq (given : GivenSettings) (json : Json) (isWritten : given.IsWritten json) :
    Settings.ofJson? json = some given.complete := by
  rcases isWritten with ⟨completion, hover, pairing, isCompletion, isHover, isPairing, isRecord⟩
  have distinct : (["completion", "quick_info", "type_through", "log_filter"].map
      String.toList).Nodup := by
    decide
  have found := isRecord.fields?_eq distinct
  simp only [List.map_cons, List.map_nil] at found
  have completionRead : (Json.Field.ofOption completion).withDefault {}
      CompletionSettings.ofJson? = some (given.completion.getD {}).complete :=
    Json.Field.withDefault_ofOption ({} : GivenCompletion) GivenCompletion.ofJson?_eq isCompletion
  have hoverRead : (Json.Field.ofOption hover).withDefault {} HoverSettings.ofJson? =
      some (given.hover.getD {}).complete :=
    Json.Field.withDefault_ofOption ({} : GivenHover) GivenHover.ofJson?_eq isHover
  have pairingRead : (Json.Field.ofOption pairing).withDefault {} PairingSettings.ofJson? =
      some (given.pairing.getD {}).complete :=
    Json.Field.withDefault_ofOption ({} : GivenPairing) GivenPairing.ofJson?_eq isPairing
  have filterRead : (Json.Field.ofOption (given.logFilter.map filterJson)).withDefault none
      (Json.nullable? Json.string?) = some (given.logFilter.getD none) := by
    rcases given.logFilter with - | - | filter <;> rfl
  rw [Settings.ofJson?, found]
  simp [completionRead, hoverRead, pairingRead, filterRead, complete]

/-! ## Settings that are printed -/

/-- The settings in which every field is given, and the log filter if there is one. -/
def ofSettings (settings : Settings) : GivenSettings where
  completion := some {
    keywords := some settings.completion.keywords
    environmentVariables := some settings.completion.environmentVariables
    documentVariables := some settings.completion.documentVariables }
  hover := some {
    splitPath := some settings.hover.splitPath
    showExpanded := some settings.hover.showExpanded }
  pairing := some { enabled := some settings.pairing.enabled }
  logFilter := settings.logFilter.map some

theorem complete_ofSettings (settings : Settings) : (ofSettings settings).complete = settings := by
  rcases settings with ⟨completion, hover, pairing, - | filter⟩ <;> rfl

/-- What is written has exactly these fields, in their order. -/
theorem isWritten_toJson (settings : Settings) :
    (ofSettings settings).IsWritten settings.toJson := by
  have noOther {fields : List (String × Option Json)} :
      ∀ member ∈ ([] : List (Text × Json)), ∀ field ∈ fields, member.1 ≠ field.1.toList := by
    simp
  refine ⟨settings.completion.toJson, settings.hover.toJson, settings.pairing.toJson,
    .some ⟨_, [], rfl, .refl _, noOther⟩, .some ⟨_, [], rfl, .refl _, noOther⟩,
    .some ⟨_, [], rfl, .refl _, noOther⟩, ⟨_, [], rfl, ?_, noOther⟩⟩
  rcases settings with ⟨completion, hover, pairing, - | filter⟩ <;>
    exact .refl _

end GivenSettings

namespace Settings

/-- Settings are written as an object of objects with truth values, and of a text. -/
theorem exists_members_toJson (settings : Settings) (Passes : Json → Prop)
    (flags : ∀ members : List (Text × Json), (∀ member ∈ members, ∃ value, member.2 = .bool value) →
      Passes (.object members))
    (text : ∀ value, Passes (.string value)) :
    ∃ members, settings.toJson = .object members ∧ ∀ member ∈ members, Passes member.2 := by
  refine ⟨_, rfl, ?_⟩
  rw [List.forall_mem_append]
  constructor
  · simp only [List.forall_mem_cons, Json.member, List.not_mem_nil, false_implies, implies_true,
      and_true]
    refine ⟨flags _ ?_, flags _ ?_, flags _ ?_⟩ <;>
      simp [Json.member]
  · intro member isMember
    rcases Option.map_eq_some_iff.mp (Option.mem_toList.mp isMember) with ⟨filter, _, rfl⟩
    exact text filter

theorem spells_compact (settings : Settings) :
    Json.Spells (.value settings.toJson) settings.compact := by
  have isFlags : ∀ members : List (Text × Json),
      (∀ member ∈ members, ∃ value, member.2 = .bool value) →
        Json.Spells (.value (.object members)) (Json.object members).compact := by
    intro members areFlags
    apply Json.spells_compact_object
    intro member isMember
    rcases areFlags member isMember with ⟨value, isFlag⟩
    rw [isFlag, Json.compact_bool]
    exact Json.spells_bool value
  have isText (value : Text) :
      Json.Spells (.value (.string value)) (Json.string value).compact := by
    rw [Json.compact_string]
    exact Json.spells_quote value
  rcases exists_members_toJson settings (fun json => Json.Spells (.value json) json.compact)
    isFlags isText with ⟨members, isObject, values⟩
  rw [compact, isObject]
  exact Json.spells_compact_object values

theorem spells_pretty (settings : Settings) :
    Json.Spells (.value settings.toJson) settings.pretty := by
  have isFlags : ∀ members : List (Text × Json),
      (∀ member ∈ members, ∃ value, member.2 = .bool value) →
        Json.Spells (.value (.object members)) ((Json.object members).prettyAt 1) := by
    intro members areFlags
    apply Json.spells_pretty_object
    intro member isMember
    rcases areFlags member isMember with ⟨value, isFlag⟩
    rw [isFlag, Json.prettyAt_bool]
    exact Json.spells_bool value
  have isText (value : Text) :
      Json.Spells (.value (.string value)) ((Json.string value).prettyAt 1) := by
    rw [Json.prettyAt_string]
    exact Json.spells_quote value
  rcases exists_members_toJson settings (fun json => Json.Spells (.value json) (json.prettyAt 1))
    isFlags isText with ⟨members, isObject, values⟩
  rw [pretty, Json.pretty, isObject]
  exact Json.spells_pretty_object values

/-- What a file gives is what the settings are, in whatever way it is spelled, with blanks in front
and behind. -/
theorem parse?_of_isWritten {given : GivenSettings} {json : Json} {text gap : Text}
    (isWritten : given.IsWritten json) (spells : Json.Spells (.value json) text)
    (areBlanks : ∀ c ∈ gap, c ∈ Json.blanks) : parse? (text ++ gap) = some given.complete := by
  rw [parse?, Json.parse?_of_spells spells areBlanks]
  exact given.ofJson?_eq json isWritten

theorem parse?_of_spells_toJson {settings : Settings} {text : Text}
    (spells : Json.Spells (.value settings.toJson) text) : parse? text = some settings := by
  have noGap : ∀ c ∈ ([] : Text), c ∈ Json.blanks := by simp
  have read := parse?_of_isWritten (GivenSettings.isWritten_toJson settings) spells noGap
  rwa [List.append_nil, GivenSettings.complete_ofSettings] at read

/-- Settings that are printed in either layout are read back. A file that gives some of the
settings, in any order and among other keys, is read as these with the default for all others, in
whatever way it is spelled and with blanks wherever they may stand. -/
theorem parse?_written :
    (∀ settings : Settings,
      parse? settings.compact = some settings ∧ parse? settings.pretty = some settings) ∧
    ∀ (given : GivenSettings) (json : Json) (text gap : Text), given.IsWritten json →
      Json.Spells (.value json) text → (∀ c ∈ gap, c ∈ Json.blanks) →
      parse? (text ++ gap) = some given.complete := by
  refine ⟨fun settings => ?_, fun given json text gap => parse?_of_isWritten⟩
  exact ⟨parse?_of_spells_toJson settings.spells_compact,
    parse?_of_spells_toJson settings.spells_pretty⟩

/-- Two fields are given, the last one first, and each among other keys. -/
theorem parse?_written_in_other_order :
    parse? (" \x7b\"log_filter\":\"a\\b\",\"x\":true,".toList ++
        "\"type_through\":\x7b\"y\":true,\"enabled\":false\x7d\x7d\n".toList) =
      some { pairing := { enabled := false }, logFilter := some ['a', '\x08'] } := by
  let filter := Json.member "log_filter" (.string ['a', '\x08'])
  let unknown := Json.member "x" (.bool true)
  let flags := [Json.member "y" (.bool true), Json.member "enabled" (.bool false)]
  let pairing := Json.member "type_through" (.object flags)
  let json := Json.object [filter, unknown, pairing]
  let given : GivenSettings :=
    { pairing := some { enabled := some false }, logFilter := some (some ['a', '\x08']) }
  have isPairing : GivenPairing.IsWritten { enabled := some false } (.object flags) := by
    refine ⟨flags, [Json.member "y" (.bool true)], rfl, .swap _ _ _, ?_⟩
    simp [Json.member]
  have reordered : ([filter, unknown] ++ [pairing]).Perm ([pairing] ++ [filter, unknown]) :=
    List.perm_append_comm
  have isWritten : given.IsWritten json := by
    refine ⟨none, none, some (.object flags), .none, .none, .some isPairing, _, [unknown], rfl,
      reordered, ?_⟩
    simp [unknown, Json.member]
  have spellsFlags : Json.Spells (.value (.object flags)) (Json.object flags).compact := by
    apply Json.spells_compact_object
    simp [flags, Json.member, Json.compact_bool, Json.spells_bool]
  have spells : Json.Spells (.value json) json.compact := by
    apply Json.spells_compact_object
    simp [filter, unknown, pairing, Json.member, Json.compact_bool, Json.compact_string,
      Json.spells_bool, Json.spells_quote, spellsFlags]
  have isBlank : ∀ c ∈ ['\n'], c ∈ Json.blanks := by simp [Json.blanks]
  have read := parse?_written.2 given json (' ' :: json.compact) ['\n'] isWritten
    (.blank (by decide) spells) isBlank
  have isText : ' ' :: json.compact ++ ['\n'] =
      " \x7b\"log_filter\":\"a\\b\",\"x\":true,".toList ++
        "\"type_through\":\x7b\"y\":true,\"enabled\":false\x7d\x7d\n".toList := by
    decide +kernel
  rwa [isText] at read

end Settings

end BatchLens
