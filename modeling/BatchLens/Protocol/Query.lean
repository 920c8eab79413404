import BatchLens.Protocol.Params
import BatchLens.Protocol.RequestError

/-!
# Queries

The questions that an editor asks about a document, and how the parameters of a request spell
them. The parameters themselves have to be objects; the records inside them may be arrays as
well. The options for formatting that come with a typed character are read, and have no influence
on the answer.
-/

namespace BatchLens

/-- A question about a document. -/
inductive Query where
  /-- What there is to say about a position. -/
  | hover (uri : Uri) (position : Position)
  /-- What may be written at a position. -/
  | completion (uri : Uri) (position : Position)
  /-- The tokens of all lines. -/
  | tokens (uri : Uri)
  /-- The tokens of the lines that a range touches. -/
  | tokensOfRange (uri : Uri) (range : PositionRange)
  /-- What to insert after a character was typed just before a position. -/
  | pairing (uri : Uri) (position : Position) (typed : Text)
  deriving DecidableEq, Repr

namespace Query

/-- Reads a question about a position. -/
def hover? (params : Json) : Option Query :=
  match params.objectFields? ["textDocument", "position", "workDoneToken"] with
  | some [document, position, progress] => do
      let uri ← document.required Params.document?
      let position ← position.required Position.ofJson?
      if Params.areTokens [progress] then some (.hover uri position) else none
  | _ => none

/-- Reads what led an editor to ask for completion. -/
def occasion? (json : Json) : Option Unit :=
  match json.fields? ["triggerKind", "triggerCharacter"] with
  | some [kind, character] => do
      let _ ← kind.required Json.int32?
      let _ ← character.optional Json.string?
      some ()
  | _ => none

/-- Reads a question for completion. -/
def completion? (params : Json) : Option Query :=
  match params.objectFields?
      ["textDocument", "position", "workDoneToken", "partialResultToken", "context"] with
  | some [document, position, progress, results, context] => do
      let uri ← document.required Params.document?
      let position ← position.required Position.ofJson?
      let _ ← context.optional occasion?
      if Params.areTokens [progress, results] then some (.completion uri position) else none
  | _ => none

/-- Reads a question for all tokens. -/
def tokens? (params : Json) : Option Query :=
  match params.objectFields? ["textDocument", "workDoneToken", "partialResultToken"] with
  | some [document, progress, results] => do
      let uri ← document.required Params.document?
      if Params.areTokens [progress, results] then some (.tokens uri) else none
  | _ => none

/-- Reads a question for the tokens of a range. -/
def tokensOfRange? (params : Json) : Option Query :=
  match params.objectFields? ["textDocument", "range", "workDoneToken", "partialResultToken"] with
  | some [document, range, progress, results] => do
      let uri ← document.required Params.document?
      let range ← range.required PositionRange.ofJson?
      if Params.areTokens [progress, results] then some (.tokensOfRange uri range) else none
  | _ => none

/-- The options for formatting that have a meaning of their own. -/
def knownOptions : List String :=
  ["tabSize", "insertSpaces", "trimTrailingWhitespace", "insertFinalNewline",
    "trimFinalNewlines"]

/-- Whether a value may stand for an option without a meaning of its own. -/
def isOption (json : Json) : Bool := json.bool?.isSome || (Token.ofJson? json).isSome

/-- Whether all the options without a meaning of their own have values that they may have. -/
def haveOptions : Json → Bool
  | .object members =>
      members.all fun member =>
        knownOptions.contains (String.ofList member.1) || isOption member.2
  | _ => false

/-- Reads the options for formatting. -/
def options? (json : Json) : Option Unit :=
  match json.objectFields? knownOptions with
  | some [tabSize, insertSpaces, trimSpace, finalBreak, trimBreaks] => do
      let _ ← tabSize.required Json.word?
      let _ ← insertSpaces.required Json.bool?
      let _ ← trimSpace.optional Json.bool?
      let _ ← finalBreak.optional Json.bool?
      let _ ← trimBreaks.optional Json.bool?
      if haveOptions json then some () else none
  | _ => none

/-- Reads a question after a typed character. -/
def pairing? (params : Json) : Option Query :=
  match params.objectFields? ["textDocument", "position", "ch", "options"] with
  | some [document, position, typed, options] => do
      let uri ← document.required Params.document?
      let position ← position.required Position.ofJson?
      let typed ← typed.required Json.string?
      let _ ← options.required options?
      some (.pairing uri position typed)
  | _ => none

/-- The methods that ask a question, and how their parameters are read. -/
def readers : List (String × (Json → Option Query)) :=
  [("textDocument/hover", hover?),
    ("textDocument/completion", completion?),
    ("textDocument/semanticTokens/full", tokens?),
    ("textDocument/semanticTokens/range", tokensOfRange?),
    ("textDocument/onTypeFormatting", pairing?)]

/-- The question that a request asks. -/
def ofRequest (method : Text) (params : Json) : Except RequestError Query :=
  match readers.find? fun reader => reader.1.toList == method with
  | none => .error (.unknownMethod method)
  | some (_, read?) =>
      match read? params with
      | some query => .ok query
      | none => .error .invalidParams

end Query

end BatchLens
