import BatchLens.Protocol.Params

/-!
# Events

What an editor tells about its documents: that one was opened, changed or closed. A notification
that cannot be read tells nothing.
-/

namespace BatchLens

/-- A text in place of a range, or of the whole document. -/
structure ContentChange where
  range : Option PositionRange
  text : Text
  deriving DecidableEq, Repr

namespace ContentChange

/-- Reads a change. The length of the range may be told as well, and does not matter. -/
def ofJson? (json : Json) : Option ContentChange :=
  match json.fields? ["range", "rangeLength", "text"] with
  | some [range, length, text] => do
      let range ← range.optional PositionRange.ofJson?
      let _ ← length.optional Json.word?
      let text ← text.required Json.string?
      some { range, text }
  | _ => none

end ContentChange

/-- What happened to a document. -/
inductive Event where
  | opened (uri : Uri) (languageId : Text) (text : Text)
  /-- The changes were made one after the other. -/
  | changed (uri : Uri) (changes : List ContentChange)
  | closed (uri : Uri)
  deriving DecidableEq, Repr

namespace Event

/-- The document that the event is about. -/
def uri : Event → Uri
  | opened uri _ _ => uri
  | changed uri _ => uri
  | closed uri => uri

/-- Reads a document that was opened. -/
def item? (json : Json) : Option Event :=
  match json.fields? ["uri", "languageId", "version", "text"] with
  | some [uri, languageId, version, text] => do
      let uri ← uri.required Uri.ofJson?
      let languageId ← languageId.required Json.string?
      let _ ← version.required Json.int32?
      let text ← text.required Json.string?
      some (.opened uri languageId text)
  | _ => none

/-- Reads that a document was opened. -/
def opened? (params : Json) : Option Event :=
  match params.fields? ["textDocument"] with
  | some [document] => document.required item?
  | _ => none

/-- Reads which document was changed, and with which version it goes on. -/
def version? (json : Json) : Option Uri :=
  match json.fields? ["uri", "version"] with
  | some [uri, version] => do
      let uri ← uri.required Uri.ofJson?
      let _ ← version.required Json.int32?
      some uri
  | _ => none

/-- Reads that a document was changed. -/
def changed? (params : Json) : Option Event :=
  match params.fields? ["textDocument", "contentChanges"] with
  | some [document, changes] => do
      let uri ← document.required version?
      let changes ← changes.required (Json.list? ContentChange.ofJson?)
      some (.changed uri changes)
  | _ => none

/-- Reads that a document was closed. -/
def closed? (params : Json) : Option Event :=
  match params.fields? ["textDocument"] with
  | some [document] => (document.required Params.document?).map .closed
  | _ => none

/-- The methods that tell of a document, and how their parameters are read. -/
def readers : List (String × (Json → Option Event)) :=
  [("textDocument/didOpen", opened?),
    ("textDocument/didChange", changed?),
    ("textDocument/didClose", closed?)]

/-- The event that a notification tells of. -/
def ofNotification? (method : Text) (params : Json) : Option Event := do
  let reader ← readers.find? fun reader => reader.1.toList == method
  reader.2 params

end Event

end BatchLens
