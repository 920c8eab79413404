import BatchLens.Text.Line

/-!
# Documents

A document is a text seen as numbered lines. All offsets are byte offsets. An offset behind the
end counts as the end, and one inside a character counts as the start of that character, so
that no operation fails on any offset.
-/

namespace BatchLens

/-- An open document. -/
structure Document where
  text : Text
  deriving DecidableEq, Repr

namespace Document

/-- The number of bytes. -/
def length (document : Document) : Nat := document.text.byteLen

/-- Whether the document has no text at all. -/
def isEmpty (document : Document) : Bool := document.text.isEmpty

/-- The lines, in order. There is always at least one. -/
def lines (document : Document) : List Line := document.text.lines

/-- The number of lines. -/
def lineCount (document : Document) : Nat := document.lines.length

/-- What a line says, without the break that ends it; nothing for a line that does not exist. -/
def line (document : Document) (index : Nat) : Text :=
  match document.lines[index]? with
  | some line => line.content
  | none => []

/-- The offset at which a line starts; the length of the document for a line that does not
exist. -/
def lineStart (document : Document) (index : Nat) : Nat :=
  Line.totalLen (document.lines.take index)

/-- The greatest character boundary of the document that is at most `offset`. -/
def clamp (document : Document) (offset : Nat) : Nat := document.text.clamp offset

/-- The number of the line that holds the character at `offset`. -/
def lineOfOffset (document : Document) (offset : Nat) : Nat :=
  Text.lineHolding document.lines (document.clamp offset)

/-- The text between two offsets. -/
def slice (document : Document) (range : ByteRange) : Text :=
  document.text.slice range.start range.stop

/-- The document with the text in a range replaced. A range that ends before it starts is the
empty range at its start. -/
def replace (document : Document) (range : ByteRange) (text : Text) : Document :=
  ⟨Text.takeBytes range.start document.text ++ text ++
    Text.dropBytes (max range.start range.stop) document.text⟩

end Document

end BatchLens
