import BatchLens.Proofs.Checked.Text
import BatchLens.Proofs.Offset
import BatchLens.Protocol.Position

/-!
# Documents over a rope

A document is kept as a rope, which is addressed by characters, bytes and lines and has nothing to
say about an index or an offset behind its end. Every accessor of a document is a few steps on the
rope, and for all arguments each of these steps has a result (`clamp_eq` to `positionOf_eq`): first
come the accessors, then the conversions between offsets and positions that are built from them.
-/

namespace BatchLens

namespace Text

theorem clamp_max (text : Text) (first second : Nat) :
    text.clamp (max first second) = max (text.clamp first) (text.clamp second) := by
  rcases Nat.le_total first second with ordered | reversed
  · rw [Nat.max_eq_right ordered, Nat.max_eq_right (text.clamp_mono ordered)]
  · rw [Nat.max_eq_left reversed, Nat.max_eq_left (text.clamp_mono reversed)]

theorem takeBytes_takeBytes {first second : Nat} (ordered : first ≤ second) (text : Text) :
    takeBytes first (takeBytes second text) = takeBytes first text := by
  induction text generalizing first second with
  | nil => rfl
  | cons c rest ih =>
      by_cases fits : c.utf8Size ≤ first
      · have fitsToo : c.utf8Size ≤ second := Nat.le_trans fits ordered
        have remaining : first - c.utf8Size ≤ second - c.utf8Size := by omega
        simp [takeBytes, fits, fitsToo, ih remaining]
      · by_cases fitsToo : c.utf8Size ≤ second <;> simp [takeBytes, fits, fitsToo]

theorem takeBytes_append_slice (text : Text) (start stop : Nat) :
    takeBytes start text ++ slice text start stop = takeBytes (max start stop) text := by
  have whole := takeBytes_append_dropBytes start (takeBytes (max start stop) text)
  rwa [takeBytes_takeBytes (Nat.le_max_left ..)] at whole

end Text

/-! ## The operations of a rope -/

namespace Rope

/-- The number of the character that holds a byte; the number of all characters for the end. -/
def charOfByte (text : Text) (offset : Nat) : Checked Nat :=
  if offset ≤ text.byteLen then .ok (Text.takeBytes offset text).length else .error .outOfRange

/-- The offset at which a character starts; the number of all bytes for the end. -/
def byteOfChar (text : Text) (index : Nat) : Checked Nat :=
  if index ≤ text.length then .ok (Text.byteLen (text.take index)) else .error .outOfRange

/-- The number of the line that holds a byte; the last line holds the end. -/
def lineOfByte (text : Text) (offset : Nat) : Checked Nat :=
  if offset ≤ text.byteLen then .ok (Text.lineHolding text.lines offset) else .error .outOfRange

/-- The offset at which a line starts; the number of all bytes behind the last. -/
def byteOfLine (text : Text) (index : Nat) : Checked Nat :=
  if index ≤ text.lines.length then .ok (Line.totalLen (text.lines.take index))
  else .error .outOfRange

/-- A line with its break. -/
def line (text : Text) (index : Nat) : Checked Text :=
  match text.lines[index]? with
  | some line => .ok line.spelling
  | none => .error .outOfRange

/-- The characters from one number on and below another. -/
def slice (text : Text) (start stop : Nat) : Checked Text :=
  if stop < start then .error .reversed
  else if text.length < stop then .error .outOfRange
  else .ok ((text.take stop).drop start)

/-- The text without the characters from one number on and below another. -/
def remove (text : Text) (start stop : Nat) : Checked Text :=
  if stop < start then .error .reversed
  else if text.length < stop then .error .outOfRange
  else .ok (text.take start ++ text.drop stop)

/-- The text with a new one in front of a character, or at the end. -/
def insert (text : Text) (index : Nat) (new : Text) : Checked Text :=
  if index ≤ text.length then .ok (text.take index ++ new ++ text.drop index)
  else .error .outOfRange

variable (before middle behind : Text)

theorem charOfByte_cut : charOfByte (before ++ behind) before.byteLen = .ok before.length := by
  rw [charOfByte, if_pos (by simp), Text.takeBytes_cut]

theorem byteOfChar_cut : byteOfChar (before ++ behind) before.length = .ok before.byteLen := by
  rw [byteOfChar, if_pos (by simp), List.take_left]

theorem slice_cut :
    slice (before ++ middle ++ behind) before.length (before ++ middle).length = .ok middle := by
  rw [slice, if_neg (by simp), if_neg (by simp), List.take_left, List.drop_left]

theorem remove_cut :
    remove (before ++ middle ++ behind) before.length (before ++ middle).length =
      .ok (before ++ behind) := by
  have kept : List.take before.length (before ++ middle ++ behind) = before := by simp
  rw [remove, if_neg (by simp), if_neg (by simp), kept, List.drop_left]

theorem insert_cut (new : Text) :
    insert (before ++ behind) before.length new = .ok (before ++ new ++ behind) := by
  rw [insert, if_pos (by simp), List.take_left, List.drop_left]

end Rope

namespace Checked

variable (document : Document)

/-! ## The accessors of a document -/

/-- The greatest character boundary of the document that is at most `offset`. -/
def clamp (document : Document) (offset : Nat) : Checked Nat := do
  let index ← Rope.charOfByte document.text (min offset document.length)
  Rope.byteOfChar document.text index

/-- What a line says, without the break that ends it. -/
def line (document : Document) (index : Nat) : Checked Text :=
  if document.lineCount ≤ index then .ok []
  else do
    let spelled ← Rope.line document.text index
    .ok (Text.dropEndWhile Unicode.isLineBreak spelled)

/-- The offset at which a line starts. -/
def lineStart (document : Document) (index : Nat) : Checked Nat :=
  if document.lineCount ≤ index then .ok document.length
  else Rope.byteOfLine document.text index

/-- The number of the line that holds the character at `offset`. -/
def lineOfOffset (document : Document) (offset : Nat) : Checked Nat := do
  let offset ← clamp document offset
  Rope.lineOfByte document.text offset

/-- The numbers of the characters at the two ends of a range of bytes. -/
def charRange (document : Document) (range : ByteRange) : Checked (Nat × Nat) := do
  let start ← clamp document range.start
  let stop ← clamp document range.stop
  let first ← Rope.charOfByte document.text start
  let last ← Rope.charOfByte document.text (max stop start)
  .ok (first, last)

/-- The text between two offsets. -/
def slice (document : Document) (range : ByteRange) : Checked Text := do
  let (first, last) ← charRange document range
  Rope.slice document.text first last

/-- The document with the text in a range replaced. -/
def replace (document : Document) (range : ByteRange) (new : Text) : Checked Document := do
  let (first, last) ← charRange document range
  let kept ← (if first = last then .ok document.text else Rope.remove document.text first last)
  let replaced ← (if new.isEmpty then .ok kept else Rope.insert kept first new)
  .ok ⟨replaced⟩

theorem clamp_eq (offset : Nat) : clamp document offset = .ok (document.clamp offset) := by
  -- The rope is asked for no more than the end, where nothing more could be taken either.
  have sameOffset : Text.takeBytes (min offset document.length) document.text =
      Text.takeBytes offset document.text := by
    rcases Nat.le_total offset document.length with inside | behind
    · rw [Nat.min_eq_left inside]
    · rcases Nat.exists_eq_add_of_le behind with ⟨more, rfl⟩
      have all := Text.takeBytes_byteLen_add document.text [] more
      have whole := Text.takeBytes_cut document.text []
      rw [List.append_nil] at all whole
      rw [Nat.min_eq_right behind, Document.length, all, whole, Text.takeBytes_nil, List.append_nil]
  have inside : min offset document.length ≤ document.text.byteLen := Nat.min_le_right ..
  have cut := Rope.byteOfChar_cut (Text.takeBytes offset document.text)
    (Text.dropBytes offset document.text)
  rw [Text.takeBytes_append_dropBytes] at cut
  rw [clamp, Rope.charOfByte, if_pos inside, sameOffset, ok_bind, cut]
  rfl

/-- All that ends a line consists of breaks. -/
theorem isLineBreak_of_mem_ending {lines : List Line}
    (areLines : Text.AreLines Unicode.isLineBreak lines) {line : Line} (isLine : line ∈ lines) :
    ∀ c ∈ line.ending, Unicode.isLineBreak c = true := by
  induction areLines with
  | last plain => simp [List.mem_singleton.mp isLine]
  | cons plain ends areOthers ih =>
      rcases List.mem_cons.mp isLine with rfl | isOther
      · rcases ends with rfl | ⟨c, isBreak, rfl⟩
        · intro c isHalf
          rcases List.mem_cons.mp isHalf with rfl | isFeed
          · rfl
          · rw [List.mem_singleton.mp isFeed]
            rfl
        · simpa using isBreak
      · exact ih isOther

/-- There is no break inside a line, so that only the one at its end is left out. -/
theorem dropEndWhile_spelling {line : Line} (isLine : line ∈ document.lines) :
    Text.dropEndWhile Unicode.isLineBreak line.spelling = line.content := by
  have areLines : Text.AreLines Unicode.isLineBreak document.lines :=
    Document.areLines_of_lines rfl
  have breaks := isLineBreak_of_mem_ending areLines isLine
  have plain := areLines.plain isLine
  have stays : Text.dropEndWhile Unicode.isLineBreak line.content = line.content :=
    Text.dropEndWhile_of_forall_not plain
  rw [Text.dropEndWhile] at stays
  rw [Line.spelling, Text.dropEndWhile, List.reverse_append,
    List.dropWhile_append_of_pos (by simpa using breaks), stays]

theorem line_eq (index : Nat) : line document index = .ok (document.line index) := by
  rw [line]
  split
  next noLine => rw [Document.line_of_le noLine]
  next isLine =>
    rcases Line.exists_split (Nat.lt_of_not_le isLine) with ⟨earlier, line, later, lines, rfl⟩
    have found : document.text.lines[earlier.length]? = some line := by
      rw [← Document.lines, lines]
      simp
    simp only [Rope.line, found, ok_bind]
    rw [dropEndWhile_spelling document (by simp [lines]), Document.line_of_lines lines]

theorem lineStart_eq (index : Nat) : lineStart document index = .ok (document.lineStart index) := by
  rw [lineStart]
  split
  next noLine => rw [Document.lineStart_of_le noLine]
  next isLine =>
    have isLine : index ≤ document.text.lines.length := Nat.le_of_not_le isLine
    rw [Rope.byteOfLine, if_pos isLine]
    rfl

theorem lineOfOffset_eq (offset : Nat) :
    lineOfOffset document offset = .ok (document.lineOfOffset offset) := by
  have inside : document.clamp offset ≤ document.text.byteLen := by
    rcases Text.exists_cut_clamp document.text offset with ⟨before, behind, text, length⟩
    rw [Document.clamp, ← length, text]
    simp
  rw [lineOfOffset, clamp_eq, ok_bind, Rope.lineOfByte, if_pos inside]
  rfl

theorem text_eq_slice (range : ByteRange) :
    document.text = Text.takeBytes range.start document.text ++ document.slice range ++
      Text.dropBytes (max range.start range.stop) document.text := by
  rw [Document.slice, Text.takeBytes_append_slice, Text.takeBytes_append_dropBytes]

theorem max_clamp (range : ByteRange) :
    max (document.clamp range.stop) (document.clamp range.start) =
      Text.byteLen (Text.takeBytes range.start document.text ++ document.slice range) := by
  rw [Document.slice, Text.takeBytes_append_slice, Nat.max_comm, Document.clamp, Document.clamp,
    ← Text.clamp_max]
  rfl

theorem charRange_eq (range : ByteRange) :
    charRange document range =
      .ok ((Text.takeBytes range.start document.text).length,
        (Text.takeBytes range.start document.text ++ document.slice range).length) := by
  have start := Rope.charOfByte_cut (Text.takeBytes range.start document.text)
    (Text.dropBytes range.start document.text)
  rw [Text.takeBytes_append_dropBytes] at start
  have stop := Rope.charOfByte_cut
    (Text.takeBytes range.start document.text ++ document.slice range)
    (Text.dropBytes (max range.start range.stop) document.text)
  rw [← text_eq_slice] at stop
  simp only [charRange, clamp_eq, ok_bind, max_clamp, stop]
  rw [Document.clamp, Text.clamp, start, ok_bind]

theorem slice_eq (range : ByteRange) : slice document range = .ok (document.slice range) := by
  have cut := Rope.slice_cut (Text.takeBytes range.start document.text) (document.slice range)
    (Text.dropBytes (max range.start range.stop) document.text)
  rw [← text_eq_slice] at cut
  rw [slice, charRange_eq, ok_bind]
  exact cut

theorem replace_eq (range : ByteRange) (new : Text) :
    replace document range new = .ok (document.replace range new) := by
  generalize beforeEq : Text.takeBytes range.start document.text = before
  generalize behindEq : Text.dropBytes (max range.start range.stop) document.text = behind
  have split := text_eq_slice document range
  rw [beforeEq, behindEq] at split
  have removed : (if before.length = (before ++ document.slice range).length then
        (.ok document.text : Checked Text)
      else Rope.remove document.text before.length (before ++ document.slice range).length) =
      .ok (before ++ behind) := by
    split
    next nothing =>
      have empty : document.slice range = [] := by simpa using nothing
      rw [split, empty, List.append_nil]
    next =>
      rw [split, Rope.remove_cut]
  have inserted : (if new.isEmpty then (.ok (before ++ behind) : Checked Text)
      else Rope.insert (before ++ behind) before.length new) = .ok (before ++ new ++ behind) := by
    split
    next nothing => simp [List.isEmpty_iff.mp nothing]
    next => exact Rope.insert_cut before behind new
  simp only [replace, charRange_eq, ok_bind, beforeEq, removed, inserted, Document.replace,
    behindEq]

/-! ## Offsets and positions -/

/-- The byte offset of a position. -/
def offsetOf (document : Document) (encoding : PositionEncoding) (position : Position) :
    Checked Nat :=
  let index := position.line.toNat
  if document.lineCount ≤ index then .ok document.length
  else do
    let content ← line document index
    let start ← lineStart document index
    .ok (start + encoding.byteOfColumn content position.character)

/-- The position of a byte offset. -/
def positionOf (document : Document) (encoding : PositionEncoding) (offset : Nat) :
    Checked Position := do
  let offset ← clamp document offset
  let index ← lineOfOffset document offset
  let start ← lineStart document index
  let before ← slice document ⟨start, offset⟩
  .ok ⟨UInt32.ofNat index, encoding.columnUnits before⟩

theorem offsetOf_eq (encoding : PositionEncoding) (position : Position) :
    offsetOf document encoding position = .ok (document.offsetOf encoding position) := by
  rw [offsetOf, Document.offsetOf]
  split
  next noLine => rw [if_neg (Nat.not_lt_of_le noLine)]
  next isLine => simp only [if_pos (Nat.lt_of_not_le isLine), line_eq, lineStart_eq, ok_bind]

theorem positionOf_eq (encoding : PositionEncoding) (offset : Nat) :
    positionOf document encoding offset = .ok (document.positionOf encoding offset) := by
  simp only [positionOf, clamp_eq, lineOfOffset_eq, lineStart_eq, slice_eq, ok_bind]
  rfl

end Checked

end BatchLens
