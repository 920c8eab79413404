import BatchLens.Document

/-!
# Closing pairs

After an opening bracket, a quote or a percent sign is typed, its closing half is inserted
behind it, but only when nothing meaningful follows on the line, and, for a character that
closes itself, only when this one opens.
-/

namespace BatchLens

namespace Pairing

/-- The characters that open a pair. -/
def openingChars : List Char := ['[', '(', '\x7b', '%', '"', '\x27']

/-- The character that closes the pair that `typed` opens. -/
def closing? (typed : Char) : Option Char :=
  if typed == '[' then some ']'
  else if typed == '(' then some ')'
  else if typed == '\x7b' then some '\x7d'
  else if typed == '%' || typed == '"' || typed == '\x27' then some typed
  else none

/-- Whether the character closes itself. -/
def isSymmetric (c : Char) : Bool := closing? c == some c

/-- What may follow a completed pair: spaces, line ends, and separators. -/
def isTrailing (c : Char) : Bool :=
  c == '\r' || c == '\n' || c == ' ' || c == ';' || c == ','

/-- Whether nothing meaningful follows the one-byte character at `typedAt`. -/
def canComplete (line : Text) (typedAt : Nat) : Bool :=
  (Text.dropEndWhile isTrailing line).byteLen == typedAt + 1

/-- Where to insert which closing character, after `typed` was entered just before `offset`. -/
def insertion? (document : Document) (offset : Nat) (typed : Char) : Option (Nat × Char) := do
  let close ← closing? typed
  let offset := document.clamp offset
  let index := document.lineOfOffset offset
  let line := document.line index
  let column := offset - document.lineStart index
  if column < typed.utf8Size then none
  let typedAt := column - typed.utf8Size
  let behind ← Text.slice? line ⟨typedAt, line.byteLen⟩
  if behind.head? != some typed then none
  if !canComplete line typedAt then none
  if isSymmetric typed && (Text.takeBytes column line).count typed % 2 == 0 then none
  some (offset, close)

end Pairing

end BatchLens
