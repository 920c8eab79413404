import BatchLens.Text.Basic

/-!
# Categories and spans

A span is a range of bytes of a text together with the category of what stands there.
-/

namespace BatchLens

/-- What a piece of batch text can be. -/
inductive Category where
  | comment
  | string
  | keyword
  | operator
  | parameter
  | identifier
  | label
  deriving DecidableEq, Repr

namespace Category

/-- Every category once. -/
def all : List Category :=
  [comment, string, keyword, operator, parameter, identifier, label]

end Category

/-- A categorised range of bytes. -/
structure Span where
  start : Nat
  length : Nat
  category : Category
  deriving DecidableEq, Repr

namespace Span

/-- The span over a range; empty when the range ends before it starts. -/
def ofRange (category : Category) (range : ByteRange) : Span :=
  ⟨range.start, range.stop - range.start, category⟩

/-- The offset behind the last byte. -/
def stop (span : Span) : Nat := span.start + span.length

/-- The bytes that the span covers. -/
def range (span : Span) : ByteRange := ⟨span.start, span.stop⟩

/-- Whether the byte at `offset` lies inside the span. -/
def contains (span : Span) (offset : Nat) : Bool :=
  span.start ≤ offset && offset < span.stop

/-- Whether the byte just before `caret` lies inside the span. -/
def containsCaret (span : Span) (caret : Nat) : Bool :=
  span.start < caret && caret ≤ span.stop

/-- Whether each of the two spans starts before the other ends. -/
def intersects (span other : Span) : Bool :=
  span.start < other.stop && other.start < span.stop

/-- The part of `source` under the span; nothing when the span leaves the text or cuts a
character. -/
def text (span : Span) (source : Text) : Text :=
  (Text.slice? source span.range).getD []

end Span

end BatchLens
