import BatchLens.Batch.Pairing
import BatchLens.Json.Basic
import BatchLens.Protocol.SemanticToken
import BatchLens.Settings.Basic

/-!
# Capabilities

What the server tells an editor of itself: the encoding in which it counts columns, that it takes
changes piece by piece, and which questions it answers.
-/

namespace BatchLens

/-- The characters on which an editor asks for completion by itself. -/
def Completion.triggers : List Text := [['%'], ['@']]

/-- The characters on which an editor asks for the closing half of a pair: the first of them,
and the others. -/
def Pairing.capability : Json :=
  .object [
    Json.member "firstTriggerCharacter" (.string (Pairing.openingChars.take 1)),
    Json.member "moreTriggerCharacter"
      (.array ((Pairing.openingChars.drop 1).map fun c => .string [c]))]

/-- The names of the token types and, as there are none, of the modifiers. -/
def SemanticToken.legend : Json :=
  .object [
    Json.member "tokenTypes" (.array (SemanticToken.typeNames.map .text)),
    Json.member "tokenModifiers" (.array [])]

/-- What the server can do. It offers closing pairs only if they are switched on. -/
def PositionEncoding.capabilities (encoding : PositionEncoding) (settings : Settings) : Json :=
  .object ([
    Json.member "positionEncoding" (.string encoding.name),
    Json.member "textDocumentSync" (.nat 2),
    Json.member "hoverProvider" (.bool true),
    Json.member "completionProvider"
      (.object [Json.member "triggerCharacters" (.array (Completion.triggers.map .string))]),
    Json.member "semanticTokensProvider"
      (.object [
        Json.member "legend" SemanticToken.legend,
        Json.member "range" (.bool true),
        Json.member "full" (.bool true)])] ++
    (if settings.pairing.enabled then
      [Json.member "documentOnTypeFormattingProvider" Pairing.capability]
    else []))

end BatchLens
