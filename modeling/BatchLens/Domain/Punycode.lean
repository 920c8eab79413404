import BatchLens.Text.Basic
import BatchLens.Unicode.RangeTable

/-!
# Punycode

A text written with ASCII characters alone. Its own ASCII characters come first, and behind the
last hyphen stand numbers that say which of the other characters are missing and where. The
missing characters are put in by increasing code points, and each number counts the steps from
one insertion to the next, where a step goes to the next place in the text, and from the last
place to the next code point.

A number is a run of digits to the base 36, of which the lowest comes first. Each digit has a
threshold, and the first digit below its own is the last of its number. The thresholds follow a
bias, which adapts to the size of the numbers.
-/

namespace BatchLens.Punycode

open Unicode

/-- The digit of a value below 36: a small letter, or a decimal digit from 26 on. -/
def digit (value : Nat) : Char :=
  if value < 26 then Char.ofNat ('a'.toNat + value) else Char.ofNat ('0'.toNat + (value - 26))

/-- The value of a digit. -/
def digitValue? (c : Char) : Option Nat :=
  if c.isLower then some (c.toNat - 'a'.toNat)
  else if c.isDigit then some (c.toNat - '0'.toNat + 26)
  else none

/-- The threshold of the digit with an index in its number, between 1 and 26. -/
def threshold (bias index : Nat) : Nat := min 26 (max 1 (36 * (index + 1) - bias))

theorem threshold_pos (bias index : Nat) : 0 < threshold bias index := by
  unfold threshold
  omega

/-- The bias behind a number of a size, which is divided by 35 as often as it is large. -/
def biasOfSize (size : Nat) : Nat :=
  if 455 < size then 36 + biasOfSize (size / 35) else 36 * size / (size + 38)
termination_by size
decreasing_by omega

/-- The bias behind a number, when a text has reached a length. The first number of a text tends
to be much larger than the others. -/
def adaptedBias (number length : Nat) (isFirst : Bool) : Nat :=
  let size := if isFirst then number / 700 else number / 2
  biasOfSize (size + size / length)

/-- The bias of the first number. -/
def firstBias : Nat := 72

/-- The first code point that is written as a number. -/
def firstCode : Nat := 128

/-! ## Writing -/

/-- The digits of a number, from the digit with an index on. -/
def digitsFrom (bias index number : Nat) : Text :=
  let least := threshold bias index
  if number < least then [digit number]
  else
    digit (least + (number - least) % (36 - least)) ::
      digitsFrom bias (index + 1) ((number - least) / (36 - least))
termination_by number
decreasing_by
  have := threshold_pos bias index
  have : (number - threshold bias index) / (36 - threshold bias index) ≤
    number - threshold bias index := Nat.div_le_self _ _
  omega

/-- What was written, and the steps that were counted since. -/
structure Writer where
  written : Text
  steps : Nat
  bias : Nat
  length : Nat
  isFirst : Bool

/-- Passes one place of the text, where all characters below a code point are in it already. A
character of that code point is inserted. -/
def Writer.pass (code : Nat) (writer : Writer) (c : Char) : Writer :=
  if c.toNat < code then { writer with steps := writer.steps + 1 }
  else if c.toNat == code then
    { written := writer.written ++ digitsFrom writer.bias 0 writer.steps
      steps := 0
      bias := adaptedBias writer.steps (writer.length + 1) writer.isFirst
      length := writer.length + 1
      isFirst := false }
  else writer

/-- Writes the characters of some code points in increasing order, when the steps were counted
from another code point on. -/
def Writer.passAll (text : Text) (reached : Nat) : List Nat → Writer → Writer
  | [], writer => writer
  | code :: codes, writer =>
      let skipped := (code - reached) * (writer.length + 1)
      let behind := text.foldl (Writer.pass code) { writer with steps := writer.steps + skipped }
      passAll text (code + 1) codes { behind with steps := behind.steps + 1 }

/-- A number put into an increasing list, unless it is there. -/
def insertNumber (number : Nat) : List Nat → List Nat
  | [] => [number]
  | first :: rest =>
      if number < first then number :: first :: rest
      else if number == first then first :: rest
      else first :: insertNumber number rest

/-- The code points of a text that are written as numbers, in increasing order. -/
def writtenCodes (text : Text) : List Nat :=
  (text.filter fun c => !isAscii c).foldl (fun codes c => insertNumber c.toNat codes) []

/-- A text in Punycode. -/
def encode (text : Text) : Text :=
  let plain := text.filter isAscii
  let writer : Writer := ⟨[], 0, firstBias, plain.length, true⟩
  (if plain.isEmpty then [] else plain ++ ['-']) ++
    (writer.passAll text firstCode (writtenCodes text)).written

/-! ## Reading -/

/-- What was read: the text so far, the place and the code point that the last number led to,
and the digits of the next number with the steps and the weight that they make up. -/
structure Reader where
  text : Text
  place : Nat
  code : Nat
  bias : Nat
  index : Nat
  steps : Nat
  weight : Nat
  isFirst : Bool

/-- A number was read as a whole; the character that it leads to is inserted. -/
def Reader.insert? (reader : Reader) (steps : Nat) : Option Reader :=
  let places := reader.text.length + 1
  let code := reader.code + (reader.place + steps) / places
  let place := (reader.place + steps) % places
  if code.isValidChar then
    some {
      text := reader.text.take place ++ Char.ofNat code :: reader.text.drop place
      place := place + 1
      code
      bias := adaptedBias steps places reader.isFirst
      index := 0
      steps := 0
      weight := 1
      isFirst := false }
  else none

/-- What a number and its weights have to stay below. -/
def numberLimit : Nat := 0x100000000

/-- Reads one digit. -/
def Reader.feed? (reader : Reader) (c : Char) : Option Reader := do
  let value ← digitValue? c
  let steps := reader.steps + value * reader.weight
  let least := threshold reader.bias reader.index
  let weight := reader.weight * (36 - least)
  if numberLimit ≤ reader.place + steps then none
  else if value < least then reader.insert? steps
  else if numberLimit ≤ weight then none
  else some { reader with index := reader.index + 1, steps, weight }

/-- The ASCII characters of the text and the digits of the numbers. A hyphen in front of everything
else does not part them. -/
def splitPlain (written : Text) : Text × Text :=
  match Text.splitLast? '-' written with
  | some (first :: plain, digits) => (first :: plain, digits)
  | _ => ([], written)

/-- The text that was written in Punycode. -/
def decode? (written : Text) : Option Text := do
  let (plain, digits) := splitPlain written
  let reader ← digits.foldlM Reader.feed? ⟨plain, 0, firstCode, firstBias, 0, 0, 1, true⟩
  if reader.index == 0 then some reader.text else none

end BatchLens.Punycode
