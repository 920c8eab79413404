import BatchLens.Unicode.Space

/-!
# Text and byte offsets

A text is the list of its characters. Offsets into a text count bytes of its UTF-8 form, so
that an offset may fall inside a character. Every cut rounds such an offset down to the
start of the character: `takeBytes budget text` is the longest prefix that fits into `budget`
bytes, `dropBytes` is what it leaves, and the two always put the text together again
(`takeBytes_append_dropBytes`).
-/

namespace BatchLens

/-- A text, as the list of its characters. -/
abbrev Text := List Char

/-- A half-open range of byte offsets. -/
structure ByteRange where
  start : Nat
  stop : Nat
  deriving DecidableEq, Repr

namespace Text

/-- The number of bytes of the UTF-8 form. -/
def byteLen : Text → Nat
  | [] => 0
  | c :: rest => c.utf8Size + byteLen rest

/-- Whether a text comes before another: the first characters that differ decide, by their code
points, and a text comes before every longer one that begins with it. -/
def comesBefore : Text → Text → Bool
  | _, [] => false
  | [], _ :: _ => true
  | c :: rest, d :: others => if c == d then comesBefore rest others else c.toNat < d.toNat

/-- The longest prefix whose UTF-8 form takes at most `budget` bytes. -/
def takeBytes : Nat → Text → Text
  | _, [] => []
  | budget, c :: rest =>
      if c.utf8Size ≤ budget then c :: takeBytes (budget - c.utf8Size) rest else []

/-- What is left behind the longest prefix of at most `budget` bytes. -/
def dropBytes : Nat → Text → Text
  | _, [] => []
  | budget, c :: rest =>
      if c.utf8Size ≤ budget then dropBytes (budget - c.utf8Size) rest else c :: rest

/-- The greatest character boundary that is at most `offset`. -/
def clamp (text : Text) (offset : Nat) : Nat :=
  byteLen (takeBytes offset text)

/-- Whether `offset` lies on a character boundary of the text, its two ends included. -/
def isBoundary (text : Text) (offset : Nat) : Bool :=
  clamp text offset == offset

/-- The part between two offsets, both rounded down to character boundaries; nothing when the
second does not lie behind the first. -/
def slice (text : Text) (start stop : Nat) : Text :=
  dropBytes start (takeBytes (max start stop) text)

/-- The part of the text in a range, if both ends of the range are character boundaries. -/
def slice? (text : Text) (range : ByteRange) : Option Text :=
  if range.start ≤ range.stop && isBoundary text range.start && isBoundary text range.stop then
    some (slice text range.start range.stop)
  else
    none

/-- The text without the longest run of such characters at its end. -/
def dropEndWhile (test : Char → Bool) (text : Text) : Text :=
  (text.reverse.dropWhile test).reverse

/-- The longest run of such characters at the end of the text. -/
def takeEndWhile (test : Char → Bool) (text : Text) : Text :=
  (text.reverse.takeWhile test).reverse

/-- The text without such characters at either end. -/
def trim (test : Char → Bool) (text : Text) : Text :=
  dropEndWhile test (text.dropWhile test)

/-- The text without one `mark` in front, if it begins with one. -/
def dropLeading (mark : Char) : Text → Text
  | [] => []
  | c :: rest => if c == mark then rest else c :: rest

/-- The parts of the text between the occurrences of `mark`. -/
def split (mark : Char) : Text → List Text
  | [] => [[]]
  | c :: rest =>
      if c == mark then [] :: split mark rest
      else match split mark rest with
        | [] => [[c]]
        | part :: parts => (c :: part) :: parts

/-- The text up to the first `mark` and the text behind it, if there is one. -/
def splitFirst? (mark : Char) : Text → Option (Text × Text)
  | [] => none
  | c :: rest =>
      if c == mark then some ([], rest)
      else (splitFirst? mark rest).map fun (before, after) => (c :: before, after)

/-- The text up to the last `mark` and the text behind it, if there is one. -/
def splitLast? (mark : Char) (text : Text) : Option (Text × Text) :=
  (splitFirst? mark text.reverse).map fun (after, before) => (before.reverse, after.reverse)

/-- The parts, one after the other with `mark` between them. -/
def join (mark : Char) : List Text → Text
  | [] => []
  | [part] => part
  | part :: parts => part ++ mark :: join mark parts

/-- The text with its ASCII letters in upper case. -/
def asciiUpper (text : Text) : Text := text.map Char.toUpper

/-- The text with its ASCII letters in lower case. -/
def asciiLower (text : Text) : Text := text.map Char.toLower

/-- Whether two texts agree up to the case of ASCII letters. -/
def sameIgnoringAsciiCase (left right : Text) : Bool :=
  asciiLower left == asciiLower right

/-- The decimal digits of a number. -/
def ofNat (n : Nat) : Text := Nat.toDigits 10 n

theorem takeBytes_append_dropBytes (budget : Nat) (text : Text) :
    takeBytes budget text ++ dropBytes budget text = text := by
  induction text generalizing budget with
  | nil => rfl
  | cons c rest ih =>
      simp only [takeBytes, dropBytes]
      split
      · simp [ih]
      · rfl

theorem byteLen_append (left right : Text) :
    byteLen (left ++ right) = byteLen left + byteLen right := by
  induction left with
  | nil => simp [byteLen]
  | cons c rest ih => simp [byteLen, ih, Nat.add_assoc]

theorem byteLen_takeBytes_le (budget : Nat) (text : Text) :
    byteLen (takeBytes budget text) ≤ budget := by
  induction text generalizing budget with
  | nil => simp [takeBytes, byteLen]
  | cons c rest ih =>
      simp only [takeBytes]
      split
      · rename_i fits
        have := ih (budget - c.utf8Size)
        simp only [byteLen]
        omega
      · simp [byteLen]

end Text

end BatchLens
