import BatchLens.Domain.Name
import BatchLens.Uri.Escape

/-!
# Hosts

The host of a URI of the web, or of a file, is a name, an address of four bytes, or an
address of eight words in square brackets. Names are the names of domains, written without
escapes and in ASCII; a name whose last part is a number has to be an address. Both kinds of
addresses have one written form each. The host of any other URI is kept as it is written, apart from the
characters that have to be escaped.
-/

namespace BatchLens.Uri

/-- The value of digits to a base, if they are digits of that base. -/
def numberOf? (base : Nat) (digits : Text) : Option Nat :=
  digits.foldlM (fun value c => do
    let digit ← Text.hexValue? c
    if digit < base then some (value * base + digit) else none) 0

/-- One of the numbers of an address of four bytes: decimal, octal after a zero, or
hexadecimal after a zero and an x. -/
def addressNumber? : Text → Option Nat
  | [] => none
  | ['0'] => some 0
  | '0' :: 'x' :: digits => numberOf? 16 digits
  | '0' :: 'X' :: digits => numberOf? 16 digits
  | '0' :: digits => numberOf? 8 digits
  | digits => numberOf? 10 digits

/-- The parts of a name between its dots, without the empty part behind a last dot. -/
def labels (name : Text) : List Text :=
  let parts := Text.split '.' name
  if parts.getLast? == some [] then parts.dropLast else parts

/-- Whether the last part of a name is a number. -/
def endsInNumber (name : Text) : Bool :=
  match (labels name).getLast? with
  | none => false
  | some last => (!last.isEmpty && last.all Char.isDigit) || (addressNumber? last).isSome

/-- The value of an address of four bytes from its numbers: the last one takes all the bytes
that the others leave. -/
def addressValue? : List Nat → Option Nat
  | [] => none
  | numbers =>
      let first := numbers.dropLast
      let last := numbers.getLastD 0
      let room := Nat.pow 256 (4 - first.length)
      if numbers.length ≤ 4 && first.all (· ≤ 255) && last < room then
        some (first.foldl (fun value number => value * 256 + number) 0 * room + last)
      else none

/-- An address of four bytes in its written form. -/
def addressText (value : Nat) : Text :=
  Text.join '.' ([0x1000000, 0x10000, 0x100, 1].map fun weight => Text.ofNat (value / weight % 256))

/-- The written form of the address of four bytes that a name spells. -/
def address? (name : Text) : Option Text := do
  let numbers ← (labels name).mapM addressNumber?
  let value ← addressValue? numbers
  some (addressText value)

/-- One word of an address of eight words: one to four hexadecimal digits. -/
def word? (digits : Text) : Option Nat :=
  if digits.isEmpty || 4 < digits.length then none else numberOf? 16 digits

/-- One byte of an address, in decimal digits without a zero in front. -/
def decimalByte? (digits : Text) : Option Nat :=
  if digits.isEmpty || (digits.head? == some '0' && digits.length != 1) then none
  else (numberOf? 10 digits).filter (· ≤ 255)

/-- The last part of an address of eight words: a word, or four bytes that make two words. -/
def lastWords? (part : Text) : Option (List Nat) :=
  if part.contains '.' then
    match (Text.split '.' part).mapM decimalByte? with
    | some [a, b, c, d] => some [256 * a + b, 256 * c + d]
    | _ => none
  else (word? part).map fun word => [word]

/-- The words of a run between colons; only the last part may consist of bytes. -/
def words? (mayEndInBytes : Bool) (text : Text) : Option (List Nat) :=
  if text.isEmpty then some []
  else
    let parts := Text.split ':' text
    if mayEndInBytes then do
      let first ← parts.dropLast.mapM word?
      let last ← lastWords? (parts.getLastD [])
      some (first ++ last)
    else parts.mapM word?

/-- The text in front of the first two colons in a row and the text behind them. -/
def splitGap? : Text → Option (Text × Text)
  | ':' :: ':' :: rest => some ([], rest)
  | c :: rest => (splitGap? rest).map fun (before, behind) => (c :: before, behind)
  | [] => none

/-- The eight words that an address spells. Two colons in a row stand for as many zeros as are
missing, and for one at least. -/
def eightWords? (text : Text) : Option (List Nat) :=
  match splitGap? text with
  | none => (words? true text).filter (·.length == 8)
  | some (before, behind) => do
      let first ← words? false before
      let last ← words? true behind
      if first.length + last.length ≤ 7 then
        some (first ++ List.replicate (8 - (first.length + last.length)) 0 ++ last)
      else none

/-- The length of the run of zeros at the front. -/
def zerosAhead (words : List Nat) : Nat := (words.takeWhile (· == 0)).length

/-- The place and length of the longest run of two or more zeros; of equal ones, the first. -/
def longestZeros (words : List Nat) : Nat × Nat :=
  (List.range words.length).foldl (fun best index =>
    let length := zerosAhead (words.drop index)
    if best.2 < length && 2 ≤ length then (index, length) else best) (0, 0)

/-- Words with colons between them. -/
def wordsText (words : List Nat) : Text :=
  Text.join ':' (words.map (Nat.toDigits 16))

/-- An address of eight words in its written form, in which the longest run of zeros is left
out. -/
def eightWordsText (words : List Nat) : Text :=
  let (index, length) := longestZeros words
  if length == 0 then wordsText words
  else wordsText (words.take index) ++ [':', ':'] ++ wordsText (words.drop (index + length))

/-- A host in square brackets; nothing if the text is not in brackets or is no address. -/
def bracketed? (text : Text) : Option Text :=
  match text with
  | '[' :: rest =>
      if rest.getLast? == some ']' then
        (eightWords? rest.dropLast).map fun words => '[' :: (eightWordsText words ++ [']'])
      else none
  | _ => none

/-- What may not stand in any host. -/
def isForbiddenInHost (c : Char) : Bool :=
  ['\x00', '\t', '\n', '\r', ' ', '#', '/', ':', '<', '>', '?', '@', '[', '\\', ']', '^',
    '|'].contains c

/-- What may not stand in a name. -/
def isForbiddenInName (c : Char) : Bool :=
  isForbiddenInHost c || c.toNat < 0x20 || c == '%' || c == '\x7f'

/-- The host of a URI of the web or of a file. -/
def webHost? (text : Text) : Option Text :=
  if text.head? == some '[' then bracketed? text
  else do
    let name ← (Text.ofUtf8? (unescape text)).bind Domain.toAscii?
    if name.isEmpty || name.any isForbiddenInName then none
    else if endsInNumber name then address? name
    else some name

/-- The host of any other URI. -/
def plainHost? (text : Text) : Option Text :=
  if text.head? == some '[' then bracketed? text
  else if text.any isForbiddenInHost then none
  else some (escape isControl text)

end BatchLens.Uri
