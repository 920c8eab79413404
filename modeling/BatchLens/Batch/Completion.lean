import BatchLens.Batch.Classification
import BatchLens.Document
import BatchLens.Environment.Basic
import BatchLens.Settings.Basic
import BatchLens.Unicode.IdentifierContinue
import BatchLens.Unicode.LowerCase

/-!
# Completion

What can be inserted at a caret. Inside a reference or the target of an assignment these are
variables, those of the environment and those that the document refers to elsewhere. On a bare
word, where a command may stand, they are the keywords. Nothing is offered inside comments and
strings.
-/

namespace BatchLens

/-- What a completion inserts. -/
inductive CompletionKind where
  | keyword
  | variable
  deriving DecidableEq, Repr

/-- One thing that can be inserted. -/
structure CompletionItem where
  label : Text
  insertText : Text
  description : Text
  kind : CompletionKind
  deriving DecidableEq, Repr

/-- All that can be inserted, and the bytes of the document that it replaces. -/
structure CompletionSet where
  replaced : ByteRange
  items : List CompletionItem
  deriving DecidableEq, Repr

namespace Completion

/-! ## Items -/

/-- The item of a keyword. -/
def keywordItem (keyword : Keyword) : CompletionItem :=
  ⟨keyword.name, keyword.name, keyword.description, .keyword⟩

/-- The item of a variable. -/
def variableItem (name description : Text) : CompletionItem :=
  ⟨name, name, description, .variable⟩

/-- The order of items: by label in lower case, and then by label. -/
def itemBefore (left right : CompletionItem) : Bool :=
  let leftKey := Unicode.lowercase left.label
  let rightKey := Unicode.lowercase right.label
  Text.comesBefore leftKey rightKey ||
    (leftKey == rightKey && !Text.comesBefore right.label left.label)

/-! ## Variables -/

/-- The name in a piece of text of the form `%NAME%`. -/
def referenceName? : Text → Option Text
  | '%' :: inner =>
      if inner.length > 1 && inner.getLast? == some '%' then some inner.dropLast else none
  | _ => none

/-- The variables that a line refers to, without the reference that covers `current`. -/
def lineVariables (current : ByteRange) (index start : Nat) (line : Text) :
    List (Text × Text) :=
  (classify line).filterMap fun span =>
    if span.category != .identifier ||
        (start + span.start == current.start && start + span.stop == current.stop) then none
    else
      (referenceName? (span.text line)).map fun name =>
        (name, "Referenced on line ".toList ++ Text.ofNat (index + 1))

/-- The variables that lines refer to, when the first of them has the given number and start. -/
def linesVariables (current : ByteRange) (index start : Nat) : List Line → List (Text × Text)
  | [] => []
  | line :: others =>
      lineVariables current index start line.content ++
        linesVariables current (index + 1) (start + line.byteLen) others

/-- The variables whose names, up to the case of ASCII letters, are neither among `seen` nor
those of an earlier variable. -/
def firstOfEach (seen : List Text) : List (Text × Text) → List (Text × Text)
  | [] => []
  | (name, description) :: others =>
      let key := Text.asciiUpper name
      if seen.contains key then firstOfEach seen others
      else (name, description) :: firstOfEach (key :: seen) others

/-- The variables that can be inserted in place of the one that covers `current`. -/
def variableItems (document : Document) (environment : Environment)
    (settings : CompletionSettings) (current : ByteRange) : List CompletionItem :=
  let known := if settings.environmentVariables then environment.bindings else []
  let written :=
    if settings.documentVariables then linesVariables current 0 0 document.lines else []
  (firstOfEach [] (known ++ written)).map fun (name, description) =>
    variableItem name description

/-- The bytes of the name inside a span, the percent signs around it left out. -/
def nameRange (span : Span) (line : Text) : ByteRange :=
  let text := span.text line
  let start := span.start + (if text.head? == some '%' then 1 else 0)
  let stop := span.stop - (if text.byteLen > 1 && text.getLast? == some '%' then 1 else 0)
  ⟨start, max stop start⟩

/-! ## The word at the caret -/

/-- A character that a word can consist of. -/
def isNameChar (c : Char) : Bool := c == '_' || Unicode.isIdentifierContinue c

/-- A line as the caret cuts it. -/
structure CaretLine where
  before : Text
  behind : Text
  deriving DecidableEq, Repr

namespace CaretLine

/-- The line cut at a column. -/
def cut (line : Text) (column : Nat) : CaretLine :=
  ⟨Text.takeBytes column line, Text.dropBytes column line⟩

/-- The part of the line in front of the word that touches the caret. -/
def head (caret : CaretLine) : Text := Text.dropEndWhile isNameChar caret.before

/-- The word that touches the caret. -/
def word (caret : CaretLine) : Text :=
  Text.takeEndWhile isNameChar caret.before ++ caret.behind.takeWhile isNameChar

/-- The bytes of the line that the word takes. -/
def wordRange (caret : CaretLine) : ByteRange :=
  let start := caret.head.byteLen
  ⟨start, start + caret.word.byteLen⟩

/-- The word or, if there is none, the character before the caret. -/
def underCaret (caret : CaretLine) : Text :=
  if caret.word.isEmpty then caret.before.getLast?.toList else caret.word

/-- Whether the caret is on a word of letters, or behind white space, or at the line start. -/
def isOnBareWord (caret : CaretLine) : Bool :=
  caret.underCaret.all fun c => Unicode.isAlphabetic c || Unicode.isWhiteSpace c

/-- The text that touches the word from the front or, if there is none, the last token before
it, tokens being separated by white space. -/
def precedingToken? (caret : CaretLine) : Option Text :=
  let isSolid (c : Char) : Bool := !Unicode.isWhiteSpace c
  let attached := Text.takeEndWhile isSolid caret.head
  if !attached.isEmpty then some attached
  else
    let before := Text.dropEndWhile Unicode.isWhiteSpace caret.head
    if before.isEmpty then none else some (Text.takeEndWhile isSolid before)

end CaretLine

/-- The keywords that another keyword may follow. -/
def chainingKeywords : List Text := ["if".toList, "not".toList]

/-- Whether nothing can be completed behind a token: it begins neither with a letter nor with a
percent sign, or it is a keyword that takes no other keyword. An at sign in front is left out of
account. -/
def isSuppressedBehind (token : Text) : Bool :=
  match Text.dropLeading '@' token with
  | [] => false
  | first :: rest =>
      if !Unicode.isAlphabetic first && first != '%' then true
      else Keyword.isKeyword (first :: rest) &&
        !chainingKeywords.any (Text.sameIgnoringAsciiCase (first :: rest))

/-- Whether a comment or a string covers the character before a column. -/
def isInCommentOrString (spans : List Span) (column : Nat) : Bool :=
  spans.any fun span =>
    (span.category == .comment || span.category == .string) && span.containsCaret column

/-- The given items in their order, unless there are none. -/
def setOf? (start : Nat) (range : ByteRange) (items : List CompletionItem) :
    Option CompletionSet :=
  if items.isEmpty then none
  else some ⟨⟨start + range.start, start + range.stop⟩, items.mergeSort itemBefore⟩

end Completion

open Completion in
/-- What can be inserted at a caret of a document. -/
def Document.complete? (document : Document) (environment : Environment)
    (settings : CompletionSettings) (caret : Nat) : Option CompletionSet :=
  let caret := document.clamp caret
  if caret = 0 then none
  else
    let index := document.lineOfOffset caret
    let start := document.lineStart index
    let line := document.line index
    let column := min (caret - start) line.byteLen
    let spans := classify line
    let cut := CaretLine.cut line column
    if isInCommentOrString spans column then none
    else if cut.precedingToken?.any isSuppressedBehind then none
    else
      match spans.find? fun span => span.category == .identifier && span.containsCaret column with
      | some span =>
          setOf? start (nameRange span line)
            (variableItems document environment settings
              ⟨start + span.start, start + span.stop⟩)
      | none =>
          if settings.keywords && cut.isOnBareWord then
            setOf? start cut.wordRange (Keyword.table.map keywordItem)
          else none

end BatchLens
