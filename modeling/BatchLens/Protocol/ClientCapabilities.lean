import BatchLens.Json.Shape

/-!
# Capabilities of clients

The record in which an editor says what it can do. Only the encodings that it can count columns
in matter here, but the whole record has to be well-formed: a field that is known and has a value
of another shape makes it unreadable, and fields that are not known are passed over.
-/

namespace BatchLens.ClientCapabilities

open Json

/-- A field that has to be there. -/
def needed (name : String) (shape : Shape) : String × Presence × Shape := (name, .required, shape)

/-- A field that may be null or have no key. -/
def may (name : String) (shape : Shape) : String × Presence × Shape := (name, .optional, shape)

/-- Fields that say yes or no. -/
def flags (names : List String) : List (String × Presence × Shape) :=
  names.map fun name => may name .bool

/-- A feature that can be registered later on. -/
def registrable : Shape := .record (flags ["dynamicRegistration"])

/-- A feature whose results can be asked for again. -/
def refreshable : Shape := .record (flags ["refreshSupport"])

/-- A feature that leads to places in documents. -/
def linking : Shape := .record (flags ["dynamicRegistration", "linkSupport"])

/-- A set of numbered kinds. -/
def kindSet : Shape := .record [may "valueSet" (.list .int32)]

/-- The tags that are known. Yes or no takes the place of the set in some editors. -/
def tags : String × Presence × Shape :=
  ("tagSupport", .omissible,
    .nullable (.either .bool (.record [needed "valueSet" (.list .int32)])))

/-- The properties that can be asked for one by one. -/
def resolvable : String × Presence × Shape :=
  may "resolveSupport" (.record [needed "properties" (.list .string)])

/-- The formats of texts that are shown, in the order in which they are preferred. -/
def formats : Shape := .list (.name ["plaintext", "markdown"])

/-- What can be done to the files of a workspace by an edit. -/
def workspaceEdit : Shape := .record [
  may "documentChanges" .bool,
  may "resourceOperations" (.list (.name ["create", "rename", "delete"])),
  may "failureHandling" (.name ["abort", "transactional", "textOnlyTransactional", "undo"]),
  may "normalizesLineEndings" .bool,
  may "changeAnnotationSupport" (.record (flags ["groupsOnLabel"]))]

/-- What can be done with a workspace. -/
def workspace : Shape := .record [
  may "applyEdit" .bool,
  may "workspaceEdit" workspaceEdit,
  may "didChangeConfiguration" registrable,
  may "didChangeWatchedFiles" (.record (flags ["dynamicRegistration", "relativePatternSupport"])),
  may "symbol" (.record [
    may "dynamicRegistration" .bool,
    may "symbolKind" kindSet,
    tags,
    resolvable]),
  may "executeCommand" registrable,
  may "workspaceFolders" .bool,
  may "configuration" .bool,
  may "semanticTokens" refreshable,
  may "codeLens" refreshable,
  may "fileOperations" (.record (flags ["dynamicRegistration", "didCreate", "willCreate",
    "didRename", "willRename", "didDelete", "willDelete"])),
  may "inlineValue" refreshable,
  may "inlayHint" refreshable,
  may "diagnostic" refreshable]

/-- How completions are shown. -/
def completionItem : Shape := .record [
  may "snippetSupport" .bool,
  may "commitCharactersSupport" .bool,
  may "documentationFormat" formats,
  may "deprecatedSupport" .bool,
  may "preselectSupport" .bool,
  tags,
  may "insertReplaceSupport" .bool,
  resolvable,
  may "insertTextModeSupport" (.record [needed "valueSet" (.list .int32)]),
  may "labelDetailsSupport" .bool]

/-- What can be done with completions. -/
def completion : Shape := .record [
  may "dynamicRegistration" .bool,
  may "completionItem" completionItem,
  may "completionItemKind" kindSet,
  may "contextSupport" .bool,
  may "insertTextMode" .int32,
  may "completionList" (.record [may "itemDefaults" (.list .string)])]

/-- What can be done with the signatures of functions. -/
def signatureHelp : Shape := .record [
  may "dynamicRegistration" .bool,
  may "signatureInformation" (.record [
    may "documentationFormat" formats,
    may "parameterInformation" (.record (flags ["labelOffsetSupport"])),
    may "activeParameterSupport" .bool]),
  may "contextSupport" .bool]

/-- What can be done with the symbols of a document. -/
def documentSymbol : Shape := .record [
  may "dynamicRegistration" .bool,
  may "symbolKind" kindSet,
  may "hierarchicalDocumentSymbolSupport" .bool,
  tags]

/-- What can be done with proposed actions. -/
def codeAction : Shape := .record [
  may "dynamicRegistration" .bool,
  may "codeActionLiteralSupport" (.record [
    needed "codeActionKind" (.record [needed "valueSet" (.list .string)])]),
  may "isPreferredSupport" .bool,
  may "disabledSupport" .bool,
  may "dataSupport" .bool,
  resolvable,
  may "honorsChangeAnnotations" .bool]

/-- What can be done with names that are changed. -/
def rename : Shape := .record [
  may "dynamicRegistration" .bool,
  may "prepareSupport" .bool,
  may "prepareSupportDefaultBehavior" .int32,
  may "honorsChangeAnnotations" .bool]

/-- What can be done with problems that a server reports. -/
def publishDiagnostics : Shape := .record [
  may "relatedInformation" .bool,
  tags,
  may "versionSupport" .bool,
  may "codeDescriptionSupport" .bool,
  may "dataSupport" .bool]

/-- What can be done with parts of a document that are folded away. -/
def foldingRange : Shape := .record [
  may "dynamicRegistration" .bool,
  may "rangeLimit" .word,
  may "lineFoldingOnly" .bool,
  may "foldingRangeKind" (.record [
    may "valueSet" (.list (.name ["comment", "imports", "region"]))]),
  may "foldingRange" (.record (flags ["collapsedText"]))]

/-- What can be done with semantic tokens. -/
def semanticTokens : Shape := .record [
  may "dynamicRegistration" .bool,
  needed "requests" (.record [
    may "range" .bool,
    may "full" (.either .bool (.object (flags ["delta"])))]),
  needed "tokenTypes" (.list .string),
  needed "tokenModifiers" (.list .string),
  needed "formats" (.list .string),
  may "overlappingTokenSupport" .bool,
  may "multilineTokenSupport" .bool,
  may "serverCancelSupport" .bool,
  may "augmentsSyntaxTokens" .bool]

/-- What can be done with a document. -/
def textDocument : Shape := .record [
  may "synchronization" (.record (flags ["dynamicRegistration", "willSave", "willSaveWaitUntil",
    "didSave"])),
  may "completion" completion,
  may "hover" (.record [may "dynamicRegistration" .bool, may "contentFormat" formats]),
  may "signatureHelp" signatureHelp,
  may "references" registrable,
  may "documentHighlight" registrable,
  may "documentSymbol" documentSymbol,
  may "formatting" registrable,
  may "rangeFormatting" registrable,
  may "onTypeFormatting" registrable,
  may "declaration" linking,
  may "definition" linking,
  may "typeDefinition" linking,
  may "implementation" linking,
  may "codeAction" codeAction,
  may "codeLens" registrable,
  may "documentLink" (.record (flags ["dynamicRegistration", "tooltipSupport"])),
  may "colorProvider" registrable,
  may "rename" rename,
  may "publishDiagnostics" publishDiagnostics,
  may "foldingRange" foldingRange,
  may "selectionRange" registrable,
  may "linkedEditingRange" registrable,
  may "callHierarchy" registrable,
  may "semanticTokens" semanticTokens,
  may "moniker" registrable,
  may "typeHierarchy" registrable,
  may "inlineValue" registrable,
  may "inlayHint" (.record [may "dynamicRegistration" .bool, resolvable]),
  may "diagnostic" (.record (flags ["dynamicRegistration", "relatedDocumentSupport"]))]

/-- What can be done with notebooks. -/
def notebookDocument : Shape := .record [
  needed "synchronization" (.record (flags ["dynamicRegistration", "executionSummaryReport"]))]

/-- What can be done with the window of the editor. -/
def window : Shape := .record [
  may "workDoneProgress" .bool,
  may "showMessage" (.record [
    may "messageActionItem" (.record (flags ["additionalPropertiesSupport"]))]),
  may "showDocument" (.record [needed "support" .bool])]

/-- What can be done in general. -/
def general : Shape := .record [
  may "regularExpressions" (.record [needed "engine" .string, may "version" .string]),
  may "markdown" (.record [
    needed "parser" .string,
    may "version" .string,
    may "allowedTags" (.list .string)]),
  may "staleRequestSupport" (.record [
    needed "cancel" .bool,
    needed "retryOnContentModified" (.list .string)]),
  may "positionEncodings" (.list .string)]

/-- What an editor can do. -/
def shape : Shape := .record [
  may "workspace" workspace,
  may "textDocument" textDocument,
  may "notebookDocument" notebookDocument,
  may "window" window,
  may "general" general,
  may "experimental" .any]

/-- The names of the encodings that an editor can count columns in, if it says so; nothing if what
it says is malformed. -/
def encodings? (json : Json) : Option (Option (List Text)) :=
  if shape.accepts json then
    some (do
      let stated ← shape.value? "general" json
      let encodings ← general.value? "positionEncodings" stated
      Json.list? Json.string? encodings)
  else none

end BatchLens.ClientCapabilities
