import BatchLens.Proofs.Protocol.Notification

/-!
# How an editor spells what it says

Every event and every question about a document can be spelled, and what is spelled in this
way is read as it was meant (`event?_opening`, `event?_changing`, `ofRequest_params`). Versions and
formatting options have to be there, and do not matter.
-/

namespace BatchLens

namespace Json

theorem Field.required_given {α : Type} (decode : Json → Option α) (value : Json) :
    (Field.given value).required decode = decode value := by
  simp only [Field.required]

theorem Field.optional_missing {α : Type} (decode : Json → Option α) :
    Field.missing.optional decode = some none := by
  simp only [Field.optional]

theorem word?_toNat (value : UInt32) : word? (.nat value.toNat) = some value := by
  have small := value.toNat_lt
  simp [word?, nat]
  omega

theorem string?_string (value : Text) : string? (.string value) = some value := by
  simp only [string?]

theorem list?_map {α : Type} {decode : Json → Option α} {encode : α → Json}
    (readBack : ∀ value, decode (encode value) = some value) (values : List α) :
    list? decode (.array (values.map encode)) = some values := by
  rw [list?]
  induction values with
  | nil => rfl
  | cons value others ih =>
      simp only [List.map_cons, List.mapM_cons, readBack, ih, Option.pure_def, Option.bind_eq_bind,
        Option.bind_some]

end Json

/-- A document, and how its name is written in messages. -/
structure DocumentName where
  text : Text
  uri : Uri
  isName : Uri.parse? text = some uri

namespace DocumentName

/-- The record that says which document is meant. -/
def toJson (name : DocumentName) : Json := .object [Json.member "uri" (.string name.text)]

/-- The record that says which version of a document is meant. -/
def versionJson (name : DocumentName) : Json :=
  .object [Json.member "uri" (.string name.text), Json.member "version" (.nat 1)]

/-- The record of a document that is opened. -/
def itemJson (name : DocumentName) (languageId text : Text) : Json :=
  .object [
    Json.member "uri" (.string name.text),
    Json.member "languageId" (.string languageId),
    Json.member "version" (.nat 1),
    Json.member "text" (.string text)]

theorem ofJson?_uri (name : DocumentName) :
    Uri.ofJson? (.string name.text) = some name.uri := by
  rw [Uri.ofJson?, Json.string?_string]
  exact name.isName

theorem document?_toJson (name : DocumentName) : Params.document? name.toJson = some name.uri := by
  have fields (uri : Json) : Json.fields? ["uri"] (.object [Json.member "uri" uri]) =
      some [.given uri] := rfl
  rw [Params.document?, toJson, fields]
  exact (Json.Field.required_given ..).trans name.ofJson?_uri

end DocumentName

/-! ## Positions -/

theorem Position.ofJson?_toJson (position : Position) :
    Position.ofJson? position.toJson = some position := by
  have fields : Json.fields? ["line", "character"] position.toJson =
      some [.given (.nat position.line.toNat), .given (.nat position.character.toNat)] := rfl
  rw [Position.ofJson?, fields]
  simp only [Json.Field.required_given, Json.word?_toNat, Option.bind_eq_bind, Option.bind_some]

theorem PositionRange.ofJson?_toJson (range : PositionRange) :
    PositionRange.ofJson? range.toJson = some range := by
  have fields : Json.fields? ["start", "end"] range.toJson =
      some [.given range.start.toJson, .given range.stop.toJson] := rfl
  rw [PositionRange.ofJson?, fields]
  simp only [Json.Field.required_given, Position.ofJson?_toJson, Option.bind_eq_bind,
    Option.bind_some]

/-! ## Events -/

/-- A change with its range, if it has one. -/
def ContentChange.toJson (change : ContentChange) : Json :=
  match change.range with
  | some range =>
      .object [Json.member "range" range.toJson, Json.member "text" (.string change.text)]
  | none => .object [Json.member "text" (.string change.text)]

theorem ContentChange.ofJson?_toJson (change : ContentChange) :
    ContentChange.ofJson? change.toJson = some change := by
  rcases change with ⟨range, text⟩
  cases range with
  | none =>
      have fields : Json.fields? ["range", "rangeLength", "text"]
          (ContentChange.toJson ⟨none, text⟩) =
            some [.missing, .missing, .given (.string text)] := rfl
      rw [ContentChange.ofJson?, fields]
      simp only [Json.Field.optional_missing, Json.Field.required_given, Json.string?_string,
        Option.bind_eq_bind, Option.bind_some]
  | some range =>
      have fields : Json.fields? ["range", "rangeLength", "text"]
          (ContentChange.toJson ⟨some range, text⟩) =
            some [.given range.toJson, .missing, .given (.string text)] := rfl
      have isRange : (Json.Field.given range.toJson).optional PositionRange.ofJson? =
          some (some range) := by
        have notNull : range.toJson ≠ .null := by simp [PositionRange.toJson]
        rw [Json.Field.optional, PositionRange.ofJson?_toJson, Option.map_some]
        exact notNull
      rw [ContentChange.ofJson?, fields]
      simp only [isRange, Json.Field.optional_missing, Json.Field.required_given,
        Json.string?_string, Option.bind_eq_bind, Option.bind_some]

namespace Notification

/-- A document is opened. -/
def opening (name : DocumentName) (languageId text : Text) : Notification where
  method := "textDocument/didOpen".toList
  params := .object [Json.member "textDocument" (name.itemJson languageId text)]

/-- A document is changed. -/
def changing (name : DocumentName) (changes : List ContentChange) : Notification where
  method := "textDocument/didChange".toList
  params := .object [
    Json.member "textDocument" name.versionJson,
    Json.member "contentChanges" (.array (changes.map ContentChange.toJson))]

theorem event?_opening (name : DocumentName) (languageId text : Text) :
    (opening name languageId text).event? = some (.opened name.uri languageId text) := by
  have fields (item : Json) :
      Json.fields? ["textDocument"] (.object [Json.member "textDocument" item]) =
        some [.given item] := rfl
  have itemFields (uri languageId version text : Json) :
      Json.fields? ["uri", "languageId", "version", "text"]
        (.object [Json.member "uri" uri, Json.member "languageId" languageId,
          Json.member "version" version, Json.member "text" text]) =
        some [.given uri, .given languageId, .given version, .given text] := by
    simp [Json.fields?, Json.uniqueMember?, Json.member]
  have version : Json.int32? (.nat 1) = some 1 := by decide
  refine (event?_didOpen _).trans ?_
  rw [Event.opened?, fields]
  simp only [Json.Field.required_given, Event.item?, DocumentName.itemJson, itemFields]
  simp only [name.ofJson?_uri, Json.string?_string, version, Option.bind_eq_bind,
    Option.bind_some]

theorem event?_changing (name : DocumentName) (changes : List ContentChange) :
    (changing name changes).event? = some (.changed name.uri changes) := by
  have fields (document changes : Json) :
      Json.fields? ["textDocument", "contentChanges"]
        (.object [Json.member "textDocument" document, Json.member "contentChanges" changes]) =
        some [.given document, .given changes] := by
    simp [Json.fields?, Json.uniqueMember?, Json.member]
  have versionFields (uri version : Json) :
      Json.fields? ["uri", "version"]
        (.object [Json.member "uri" uri, Json.member "version" version]) =
        some [.given uri, .given version] := rfl
  have version : Json.int32? (.nat 1) = some 1 := by decide
  refine (event?_didChange _).trans ?_
  rw [Event.changed?, fields]
  simp only [Json.Field.required_given, Event.version?, DocumentName.versionJson, versionFields]
  simp only [name.ofJson?_uri, version, Json.list?_map ContentChange.ofJson?_toJson,
    Option.bind_eq_bind, Option.bind_some]

end Notification

/-- The name of a batch file. -/
def batchFile : DocumentName where
  text := "file:///a.bat".toList
  uri := {
    scheme := "file".toList
    authority := some ⟨[], [], none⟩
    path := .segments ["a.bat".toList]
    query := none
    fragment := none }
  isName := by decide +kernel

theorem isBatchDocument_batchFile :
    Server.isBatchDocument batchFile.uri Language.id = true := by
  decide +kernel

/-! ## Questions -/

namespace Query

/-- The document that a question is about. -/
def uri : Query → Uri
  | hover uri _ => uri
  | completion uri _ => uri
  | tokens uri => uri
  | tokensOfRange uri _ => uri
  | pairing uri _ _ => uri

/-- The method by which a question is asked. -/
def method : Query → Text
  | hover .. => "textDocument/hover".toList
  | completion .. => "textDocument/completion".toList
  | tokens _ => "textDocument/semanticTokens/full".toList
  | tokensOfRange .. => "textDocument/semanticTokens/range".toList
  | pairing .. => "textDocument/onTypeFormatting".toList

/-- Some options for formatting. -/
def formattingOptions : Json :=
  .object [Json.member "tabSize" (.nat 4), Json.member "insertSpaces" (.bool true)]

/-- The parameters that ask a question about a document of that name. -/
def params (name : DocumentName) : Query → Json
  | hover _ position | completion _ position =>
      .object [Json.member "textDocument" name.toJson, Json.member "position" position.toJson]
  | tokens _ => .object [Json.member "textDocument" name.toJson]
  | tokensOfRange _ range =>
      .object [Json.member "textDocument" name.toJson, Json.member "range" range.toJson]
  | pairing _ position typed =>
      .object [
        Json.member "textDocument" name.toJson,
        Json.member "position" position.toJson,
        Json.member "ch" (.string typed),
        Json.member "options" formattingOptions]

theorem areTokens_nil : Params.areTokens [] = true := rfl

theorem areTokens_missing (fields : List Json.Field) :
    Params.areTokens (.missing :: fields) = Params.areTokens fields := by
  simp [Params.areTokens, Json.Field.optional_missing]

theorem options?_formattingOptions : options? formattingOptions = some () := by
  decide +kernel

theorem hover?_params (name : DocumentName) (position : Position) :
    hover? (params name (.hover name.uri position)) = some (.hover name.uri position) := by
  have fields (document position : Json) :
      Json.objectFields? ["textDocument", "position", "workDoneToken"]
        (.object [Json.member "textDocument" document, Json.member "position" position]) =
        some [.given document, .given position, .missing] := by
    simp [Json.objectFields?, Json.uniqueMember?, Json.member]
  rw [params, hover?, fields]
  simp only [Json.Field.required_given, name.document?_toJson, Position.ofJson?_toJson,
    areTokens_missing, areTokens_nil, if_true, Option.bind_eq_bind, Option.bind_some]

theorem completion?_params (name : DocumentName) (position : Position) :
    completion? (params name (.completion name.uri position)) =
      some (.completion name.uri position) := by
  have fields (document position : Json) :
      Json.objectFields?
        ["textDocument", "position", "workDoneToken", "partialResultToken", "context"]
        (.object [Json.member "textDocument" document, Json.member "position" position]) =
        some [.given document, .given position, .missing, .missing, .missing] := by
    simp [Json.objectFields?, Json.uniqueMember?, Json.member]
  rw [params, completion?, fields]
  simp only [Json.Field.required_given, Json.Field.optional_missing, name.document?_toJson,
    Position.ofJson?_toJson, areTokens_missing, areTokens_nil, if_true, Option.bind_eq_bind,
    Option.bind_some]

theorem tokens?_params (name : DocumentName) :
    tokens? (params name (.tokens name.uri)) = some (.tokens name.uri) := by
  have fields (document : Json) :
      Json.objectFields? ["textDocument", "workDoneToken", "partialResultToken"]
        (.object [Json.member "textDocument" document]) =
        some [.given document, .missing, .missing] := by
    simp [Json.objectFields?, Json.uniqueMember?, Json.member]
  rw [params, tokens?, fields]
  simp only [Json.Field.required_given, name.document?_toJson, areTokens_missing, areTokens_nil,
    if_true, Option.bind_eq_bind, Option.bind_some]

theorem tokensOfRange?_params (name : DocumentName) (range : PositionRange) :
    tokensOfRange? (params name (.tokensOfRange name.uri range)) =
      some (.tokensOfRange name.uri range) := by
  have fields (document range : Json) :
      Json.objectFields? ["textDocument", "range", "workDoneToken", "partialResultToken"]
        (.object [Json.member "textDocument" document, Json.member "range" range]) =
        some [.given document, .given range, .missing, .missing] := by
    simp [Json.objectFields?, Json.uniqueMember?, Json.member]
  rw [params, tokensOfRange?, fields]
  simp only [Json.Field.required_given, name.document?_toJson, PositionRange.ofJson?_toJson,
    areTokens_missing, areTokens_nil, if_true, Option.bind_eq_bind, Option.bind_some]

theorem pairing?_params (name : DocumentName) (position : Position) (typed : Text) :
    pairing? (params name (.pairing name.uri position typed)) =
      some (.pairing name.uri position typed) := by
  have fields (document position typed options : Json) :
      Json.objectFields? ["textDocument", "position", "ch", "options"]
        (.object [Json.member "textDocument" document, Json.member "position" position,
          Json.member "ch" typed, Json.member "options" options]) =
        some [.given document, .given position, .given typed, .given options] := by
    simp [Json.objectFields?, Json.uniqueMember?, Json.member]
  rw [params, pairing?, fields]
  simp only [Json.Field.required_given, name.document?_toJson, Position.ofJson?_toJson,
    Json.string?_string, options?_formattingOptions, Option.bind_eq_bind, Option.bind_some]

/-- A request is read by the reader of its method. -/
theorem ofRequest_of_reader {method : String} {read? : Json → Option Query} {params : Json}
    {query : Query}
    (reader : readers.find? (fun reader => reader.1.toList == method.toList) =
      some (method, read?))
    (understood : read? params = some query) :
    ofRequest method.toList params = .ok query := by
  rw [ofRequest, reader]
  simp only [understood]

/-- What is asked in this way is read as it was meant. -/
theorem ofRequest_params (name : DocumentName) {query : Query} (about : query.uri = name.uri) :
    ofRequest query.method (query.params name) = .ok query := by
  cases query with
  | hover uri position =>
      cases about
      exact ofRequest_of_reader rfl (hover?_params name position)
  | completion uri position =>
      cases about
      exact ofRequest_of_reader rfl (completion?_params name position)
  | tokens uri =>
      cases about
      exact ofRequest_of_reader rfl (tokens?_params name)
  | tokensOfRange uri range =>
      cases about
      exact ofRequest_of_reader rfl (tokensOfRange?_params name range)
  | pairing uri position typed =>
      cases about
      exact ofRequest_of_reader rfl (pairing?_params name position typed)

end Query

end BatchLens
