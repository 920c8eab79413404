import BatchLens.Batch.Pairing
import BatchLens.Language
import BatchLens.Protocol.Answer
import BatchLens.Protocol.Event
import BatchLens.Protocol.Query
import BatchLens.Protocol.Workspace

/-!
# The server

The server keeps the batch files among the documents that an editor has open, and answers
questions about them. Events change the workspace and have no answer; queries are answered from
the workspace and do not change it. A query about a document that is not kept has the empty
answer.
-/

namespace BatchLens

/-- A server with the documents that it keeps. -/
structure Server where
  settings : Settings
  environment : Environment
  encoding : PositionEncoding
  workspace : Workspace

namespace Server

/-- A server that keeps no document yet. -/
def start (settings : Settings) (environment : Environment) (encoding : PositionEncoding) :
    Server :=
  ⟨settings, environment, encoding, .empty⟩

/-- The document of that name, if it is kept. -/
def document? (server : Server) (uri : Uri) : Option Document := server.workspace.document? uri

/-- Whether a document is a batch file: its language or the extension of its path says so. -/
def isBatchDocument (uri : Uri) (languageId : Text) : Bool :=
  languageId == Language.id || (uri.filePath?.map Language.isBatchFile).getD false

/-- The document after a change. -/
def changed (encoding : PositionEncoding) (document : Document) (change : ContentChange) :
    Document :=
  match change.range with
  | some range => document.replace (document.byteRangeOf encoding range) change.text
  | none => ⟨change.text⟩

/-- The workspace after an event. -/
def workspaceAfter (encoding : PositionEncoding) (workspace : Workspace) : Event → Workspace
  | .opened uri languageId text =>
      if isBatchDocument uri languageId then workspace.insert uri ⟨text⟩ else workspace
  | .changed uri changes =>
      match workspace.document? uri with
      | some document => workspace.insert uri (changes.foldl (changed encoding) document)
      | none => workspace
  | .closed uri => workspace.erase uri

/-- The server after an event. -/
def observe (server : Server) (event : Event) : Server :=
  { server with workspace := workspaceAfter server.encoding server.workspace event }

/-- The server after a notification. One that tells of no event changes nothing. -/
def notify (server : Server) (method : Text) (params : Json) : Server :=
  match Event.ofNotification? method params with
  | some event => server.observe event
  | none => server

/-- The hover text at a position. -/
def hover? (server : Server) (uri : Uri) (position : Position) : Option Answer := do
  let document ← server.document? uri
  let offset := document.offsetOf server.encoding position
  let hover ← document.hover? server.environment server.settings.hover offset
  some (document.hoverAnswer server.encoding hover)

/-- The completion set at a position. -/
def completion? (server : Server) (uri : Uri) (position : Position) : Option Answer := do
  let document ← server.document? uri
  let caret := document.offsetOf server.encoding position
  let set ← document.complete? server.environment server.settings.completion caret
  some (document.completionAnswer server.encoding set)

/-- The tokens of all lines. -/
def tokens? (server : Server) (uri : Uri) : Option Answer := do
  let document ← server.document? uri
  some (.tokens (document.semanticTokens server.encoding 0 document.lineCount))

/-- The tokens of the lines from the one where a range starts to the one where it ends. -/
def tokensOfRange? (server : Server) (uri : Uri) (range : PositionRange) : Option Answer := do
  let document ← server.document? uri
  some (.tokens (document.semanticTokens server.encoding range.start.line.toNat
    (range.stop.line.toNat + 1)))

/-- The edit that inserts the closing half of a pair, if pairs are to be closed. Only the first
typed character counts. -/
def pairing? (server : Server) (uri : Uri) (position : Position) (typed : Text) :
    Option Answer := do
  if !server.settings.pairing.enabled then none
  let document ← server.document? uri
  let typed ← typed.head?
  let offset := document.offsetOf server.encoding position
  let (place, close) ← Pairing.insertion? document offset typed
  some (.edits [⟨document.positionRangeOf server.encoding ⟨place, place⟩, [close]⟩])

/-- The answer to a question. -/
def answer (server : Server) (query : Query) : Answer :=
  let found := match query with
    | .hover uri position => server.hover? uri position
    | .completion uri position => server.completion? uri position
    | .tokens uri => server.tokens? uri
    | .tokensOfRange uri range => server.tokensOfRange? uri range
    | .pairing uri position typed => server.pairing? uri position typed
  found.getD .nothing

/-- The answer to a request, or why it is refused. -/
def respond (server : Server) (method : Text) (params : Json) : Except RequestError Answer :=
  (Query.ofRequest method params).map server.answer

end Server

end BatchLens
