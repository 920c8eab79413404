import BatchLens.Batch.Classification
import BatchLens.Protocol.Position

/-!
# Semantic tokens

The classification of a document as an editor receives it. Where spans overlap, the one that
starts first is kept, and of two that start together the shorter one. Each token is then
placed on its line in units of the agreed encoding, and written relative to the token before
it: by the number of lines between them and, on the same line, the distance of their starts.
-/

namespace BatchLens

namespace Span

/-- The order in which overlaps are resolved: by start, then by length. -/
def startsBefore (left right : Span) : Bool :=
  left.start < right.start || (left.start == right.start && left.length ≤ right.length)

/-- The spans that are kept of an ordered list, when everything before `covered` is taken. -/
def keepApart (covered : Nat) : List Span → List Span
  | [] => []
  | span :: others =>
      if span.length == 0 || span.start < covered then keepApart covered others
      else span :: keepApart span.stop others

/-- Non-empty, disjoint spans in order of their starts. -/
def resolveOverlaps (spans : List Span) : List Span :=
  keepApart 0 (spans.mergeSort startsBefore)

end Span

/-- A token on a line of a document. -/
structure PlacedToken where
  line : UInt32
  start : UInt32
  length : UInt32
  category : Category
  deriving DecidableEq, Repr

/-- A token as it is sent, relative to the token before it. -/
structure SemanticToken where
  deltaLine : UInt32
  deltaStart : UInt32
  length : UInt32
  tokenType : Nat
  modifiers : Nat
  deriving DecidableEq, Repr

namespace SemanticToken

/-- The names of the token types, in the order of their numbers. -/
def typeNames : List String :=
  ["comment", "string", "keyword", "operator", "parameter", "variable", "label"]

/-- The number of the token type of a category. -/
def typeOf : Category → Nat
  | .comment => 0
  | .string => 1
  | .keyword => 2
  | .operator => 3
  | .parameter => 4
  | .identifier => 5
  | .label => 6

/-- The token of a span on a line. -/
def place (encoding : PositionEncoding) (index : Nat) (line : Text) (span : Span) : PlacedToken :=
  { line := UInt32.ofNat index
    start := encoding.columnUnits (Text.takeBytes span.start line)
    length := encoding.columnUnits (span.text line)
    category := span.category }

/-- The tokens of a line, from left to right. -/
def ofLine (encoding : PositionEncoding) (index : Nat) (line : Text) : List PlacedToken :=
  ((Span.resolveOverlaps (classify line)).map (place encoding index line)).filter fun token =>
    token.length != 0

/-- The tokens of the lines with numbers from `start` on and below `stop`. -/
def ofLines (document : Document) (encoding : PositionEncoding) (start stop : Nat) :
    List PlacedToken :=
  ((document.lines.zipIdx.take stop).drop start).flatMap fun (line, index) =>
    ofLine encoding index line.content

/-- The tokens relative to one another; the first one to the given line and start. -/
def relative (line start : UInt32) : List PlacedToken → List SemanticToken
  | [] => []
  | token :: others =>
      let deltaLine := token.line - line
      { deltaLine := deltaLine
        deltaStart := if deltaLine == 0 then token.start - start else token.start
        length := token.length
        tokenType := typeOf token.category
        modifiers := 0 } :: relative token.line token.start others

end SemanticToken

/-- The tokens of a range of lines of a document, as they are sent. -/
def Document.semanticTokens (document : Document) (encoding : PositionEncoding)
    (start stop : Nat) : List SemanticToken :=
  SemanticToken.relative 0 0 (SemanticToken.ofLines document encoding start stop)

end BatchLens
