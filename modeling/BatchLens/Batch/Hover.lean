import BatchLens.Batch.Classification
import BatchLens.Document
import BatchLens.Environment.Basic
import BatchLens.Settings.Basic
import BatchLens.Unicode.LowerCase

/-!
# Hover texts

What is shown for the character under the pointer. A variable with a value that is not empty
shows its value and, if wanted, the value with its own references expanded. Otherwise a keyword
shows its description.
-/

namespace BatchLens

/-- A hover text and the bytes of the document that it is about. -/
structure Hover where
  range : ByteRange
  contents : List Text
  deriving DecidableEq, Repr

namespace Hover

/-- The first span of a category that contains a column. -/
def spanAt? (spans : List Span) (category : Category) (column : Nat) : Option Span :=
  spans.find? fun span => span.category == category && span.contains column

/-- A search path with one directory a line. -/
def splitPath (value : Text) : Text :=
  Text.join '\n' ((Text.split ';' value).filter fun directory => !directory.isEmpty)

/-- The name of the variable in a piece of text: without white space, and then without percent
signs at its ends. -/
def variableName (text : Text) : Text :=
  Text.trim (· == '%') (Text.trim Unicode.isWhiteSpace text)

/-- What is shown for the variable in a piece of text, if it has a value that is not empty. -/
def variableContents? (environment : Environment) (settings : HoverSettings) (text : Text) :
    Option (List Text) := do
  let name := variableName text
  let value ← environment.value? name
  if value.isEmpty then none
  let render := if settings.splitPath && Text.sameIgnoringAsciiCase name "path".toList then
    splitPath else id
  let expanded := environment.expand value
  if settings.showExpanded && expanded != value then some [render value, render expanded]
  else some [render value]

/-- What is shown for the keyword in a piece of text. -/
def keywordContents? (text : Text) : Option (List Text) := do
  let name := Unicode.lowercase (Text.dropLeading '@' (Text.trim Unicode.isWhiteSpace text))
  let description ← Keyword.describe? name
  some [description]

end Hover

/-- The hover text at an offset of a document, by spans that are taken for those of its line. -/
def Document.hoverAmong? (document : Document) (environment : Environment)
    (settings : HoverSettings) (offset : Nat) (spans : List Span) : Option Hover :=
  let offset := document.clamp offset
  let index := document.lineOfOffset offset
  let start := document.lineStart index
  let line := document.line index
  let column := offset - start
  let about (span : Span) (contents : List Text) : Hover :=
    ⟨⟨start + span.start, start + span.stop⟩, contents⟩
  let onVariable : Option Hover := do
    let span ← Hover.spanAt? spans .identifier column
    let contents ← Hover.variableContents? environment settings (span.text line)
    some (about span contents)
  let onKeyword : Option Hover := do
    let span ← Hover.spanAt? spans .keyword column
    let contents ← Hover.keywordContents? (span.text line)
    some (about span contents)
  onVariable.or onKeyword

/-- The hover text at an offset of a document. -/
def Document.hover? (document : Document) (environment : Environment) (settings : HoverSettings)
    (offset : Nat) : Option Hover :=
  let line := document.line (document.lineOfOffset (document.clamp offset))
  document.hoverAmong? environment settings offset (classify line)

end BatchLens
