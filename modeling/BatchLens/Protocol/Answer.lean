import BatchLens.Batch.Completion
import BatchLens.Batch.Hover
import BatchLens.Json.Basic
import BatchLens.Protocol.SemanticToken

/-!
# Answers

How results are written in the language-server protocol. Members that are absent are left out.
Every completion item carries a text to sort by, its number in five digits, so that an editor
shows the items in the order of the set.
-/

namespace BatchLens

/-- A position with its two numbers. -/
def Position.toJson (position : Position) : Json :=
  .object [
    Json.member "line" (.nat position.line.toNat),
    Json.member "character" (.nat position.character.toNat)]

/-- A range with its two ends. -/
def PositionRange.toJson (range : PositionRange) : Json :=
  .object [
    Json.member "start" range.start.toJson,
    Json.member "end" range.stop.toJson]

/-- An edit that puts a text in place of a range. -/
structure TextEdit where
  range : PositionRange
  newText : Text
  deriving DecidableEq, Repr

/-- An edit with its range and text. -/
def TextEdit.toJson (edit : TextEdit) : Json :=
  .object [
    Json.member "range" edit.range.toJson,
    Json.member "newText" (.string edit.newText)]

/-- The number of a kind of completion item. -/
def CompletionKind.number : CompletionKind → Nat
  | .keyword => 14
  | .variable => 6

/-- The decimal digits of a number, with zeros in front up to five digits. -/
def sortText (index : Nat) : Text :=
  let digits := Text.ofNat index
  List.replicate (5 - digits.length) '0' ++ digits

/-- A completion item as it is offered, with its text to sort by and its edit. -/
structure OfferedItem where
  item : CompletionItem
  sortText : Text
  edit : TextEdit
  deriving DecidableEq, Repr

/-- The items of a completion set as they are offered. -/
def Document.offeredItems (document : Document) (encoding : PositionEncoding)
    (set : CompletionSet) : List OfferedItem :=
  let range := document.positionRangeOf encoding set.replaced
  set.items.zipIdx.map fun (item, index) =>
    ⟨item, BatchLens.sortText index, ⟨range, item.insertText⟩⟩

/-- One offered item. -/
def OfferedItem.toJson (offered : OfferedItem) : Json :=
  .object [
    Json.member "label" (.string offered.item.label),
    Json.member "kind" (.nat offered.item.kind.number),
    Json.member "detail" (.string offered.item.description),
    Json.member "sortText" (.string offered.sortText),
    Json.member "textEdit" offered.edit.toJson]

/-- The five numbers of a token. -/
def SemanticToken.numbers (token : SemanticToken) : List Nat :=
  [token.deltaLine.toNat, token.deltaStart.toNat, token.length.toNat, token.tokenType,
    token.modifiers]

/-- What the server answers. -/
inductive Answer where
  /-- There is nothing to say. -/
  | nothing
  /-- Texts to show, and the range that they are about. -/
  | hover (contents : List Text) (range : PositionRange)
  /-- The complete list of the items to offer. -/
  | completion (items : List OfferedItem)
  /-- The tokens of some lines. -/
  | tokens (tokens : List SemanticToken)
  /-- Edits to make. -/
  | edits (edits : List TextEdit)
  deriving DecidableEq, Repr

/-- The answer to a hover text. -/
def Document.hoverAnswer (document : Document) (encoding : PositionEncoding) (hover : Hover) :
    Answer :=
  .hover hover.contents (document.positionRangeOf encoding hover.range)

/-- The answer to a completion set. -/
def Document.completionAnswer (document : Document) (encoding : PositionEncoding)
    (set : CompletionSet) : Answer :=
  .completion (document.offeredItems encoding set)

/-- An answer as it is sent. -/
def Answer.toJson : Answer → Json
  | nothing => .null
  | hover contents range =>
      .object [
        Json.member "contents" (.array (contents.map .string)),
        Json.member "range" range.toJson]
  | completion items =>
      .object [
        Json.member "isIncomplete" (.bool false),
        Json.member "items" (.array (items.map OfferedItem.toJson))]
  | tokens found =>
      .object [Json.member "data" (.array ((found.flatMap SemanticToken.numbers).map .nat))]
  | edits found => .array (found.map TextEdit.toJson)

end BatchLens
