import BatchLens.Text.Basic

/-!
# Lines of a text

A text is cut into lines after each line break. Carriage return and line feed together are
one break; alone, each is a break of its own, as are the other characters of
`Unicode.isLineBreak`. The last line has no break, so a text that ends in a break has one more, empty,
line, and the empty text has exactly one line.
-/

namespace BatchLens

/-- A line: what it says, and the break that ends it, empty for the last line. -/
structure Line where
  content : Text
  ending : Text
  deriving DecidableEq, Repr

namespace Line

/-- The bytes that the line takes in its text, its break included. -/
def byteLen (line : Line) : Nat :=
  Text.byteLen line.content + Text.byteLen line.ending

/-- The line with one more character in front. -/
def push (c : Char) (line : Line) : Line := { line with content := c :: line.content }

/-- The bytes that lines take together. -/
def totalLen : List Line → Nat
  | [] => 0
  | line :: others => line.byteLen + totalLen others

end Line

namespace Text

/-- The lines of a text, in order, when a line ends behind every character that passes `isBreak`.
Carriage return and line feed together end one line. -/
def linesBy (isBreak : Char → Bool) : Text → List Line
  | [] => [⟨[], []⟩]
  | '\r' :: '\n' :: rest => ⟨[], ['\r', '\n']⟩ :: linesBy isBreak rest
  | c :: rest =>
      if isBreak c then ⟨[], [c]⟩ :: linesBy isBreak rest
      else match linesBy isBreak rest with
        | [] => [⟨[c], []⟩]
        | line :: others => line.push c :: others

/-- The lines of a text, in order. -/
def lines (text : Text) : List Line := linesBy Unicode.isLineBreak text

/-- The number of the line that holds the byte at `offset`; the last line holds the end. -/
def lineHolding : List Line → Nat → Nat
  | [], _ => 0
  | [_], _ => 0
  | line :: others, offset =>
      if offset < line.byteLen then 0 else lineHolding others (offset - line.byteLen) + 1

/-- The byte offsets at which the lines start, when the first starts at `offset`. -/
def lineStarts (offset : Nat) : List Line → List Nat
  | [] => []
  | line :: others => offset :: lineStarts (offset + line.byteLen) others

end Text

end BatchLens
