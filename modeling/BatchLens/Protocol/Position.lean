import BatchLens.Document

/-!
# Positions

An editor speaks of a line and of a column counted in units of an agreed encoding: bytes,
UTF-16 code units or characters. Lines and columns are numbers of 32 bits. Counting the units
of a text wraps around beyond that, and looking for a column stops counting there.
-/

namespace BatchLens

/-- The units in which columns are counted. -/
inductive PositionEncoding where
  | utf8
  | utf16
  | utf32
  deriving DecidableEq, Repr

/-- UTF-16 is used where nothing was agreed. -/
instance : Inhabited PositionEncoding := ⟨.utf16⟩

/-- A place in a document as an editor sees it. -/
structure Position where
  line : UInt32
  character : UInt32
  deriving DecidableEq, Repr

/-- A half-open range of positions. -/
structure PositionRange where
  start : Position
  stop : Position
  deriving DecidableEq, Repr

namespace PositionEncoding

/-- The name of the encoding in the protocol. -/
def name : PositionEncoding → Text
  | utf8 => "utf-8".toList
  | utf16 => "utf-16".toList
  | utf32 => "utf-32".toList

/-- The encoding of that name. -/
def named? (name : Text) : Option PositionEncoding :=
  [utf8, utf16, utf32].find? fun encoding => encoding.name == name

/-- The units that one character takes. -/
def units : PositionEncoding → Char → UInt32
  | utf8, c => UInt32.ofNat c.utf8Size
  | utf16, c => if c.toNat < 0x10000 then 1 else 2
  | utf32, _ => 1

/-- The encoding to use with a client that offers these. Bytes are preferred. Otherwise the
first encoding on offer that is known is taken, and UTF-16 when there is none or the client does
not say. -/
def negotiate : Option (List Text) → PositionEncoding
  | none => utf16
  | some offered =>
      let known := offered.filterMap named?
      if known.contains utf8 then utf8 else known.headD utf16

/-- The units that a text takes. -/
def columnUnits (encoding : PositionEncoding) (text : Text) : UInt32 :=
  text.foldl (fun total c => total + encoding.units c) 0

/-- The sum of two counts, which stays at the greatest number of 32 bits. -/
def saturatingAdd (left right : UInt32) : UInt32 :=
  if left.toNat + right.toNat < 0x100000000 then left + right else 0xFFFFFFFF

/-- The bytes of a text up to a column, when `passed` units lie before the text. -/
def bytesToColumn (encoding : PositionEncoding) (column : UInt32) (passed : UInt32) : Text → Nat
  | [] => 0
  | c :: rest =>
      let next := saturatingAdd passed (encoding.units c)
      if column < next then 0
      else c.utf8Size + encoding.bytesToColumn column next rest

/-- The byte offset of a column in a line: the last character boundary that is not behind it. -/
def byteOfColumn (encoding : PositionEncoding) (line : Text) (column : UInt32) : Nat :=
  encoding.bytesToColumn column 0 line

end PositionEncoding

namespace Document

/-- The byte offset of a position. A column behind the end of its line counts as the end of the
line, and a line behind the last as the end of the document. -/
def offsetOf (document : Document) (encoding : PositionEncoding) (position : Position) : Nat :=
  let index := position.line.toNat
  if index < document.lineCount then
    document.lineStart index + encoding.byteOfColumn (document.line index) position.character
  else
    document.length

/-- The position of a byte offset. -/
def positionOf (document : Document) (encoding : PositionEncoding) (offset : Nat) : Position :=
  let offset := document.clamp offset
  let index := document.lineOfOffset offset
  let before := document.slice ⟨document.lineStart index, offset⟩
  ⟨UInt32.ofNat index, encoding.columnUnits before⟩

/-- The bytes between two positions, none when the second lies before the first. -/
def byteRangeOf (document : Document) (encoding : PositionEncoding) (range : PositionRange) :
    ByteRange :=
  let start := document.offsetOf encoding range.start
  ⟨start, max start (document.offsetOf encoding range.stop)⟩

/-- The positions of the two ends of a range of bytes. -/
def positionRangeOf (document : Document) (encoding : PositionEncoding) (range : ByteRange) :
    PositionRange :=
  ⟨document.positionOf encoding range.start, document.positionOf encoding range.stop⟩

end Document

end BatchLens
