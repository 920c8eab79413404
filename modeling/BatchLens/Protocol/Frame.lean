import BatchLens.Protocol.Message
import BatchLens.Text.Utf8

/-!
# Frames

On the wire a message is a frame: lines of headers, an empty line, and as many bytes as
one of the headers says. Lines end in a carriage return and a line feed. A header is a name and
a value with a colon and a space between them; only the length of the payload matters, and
of several lengths the last one counts.

A frame may still be incomplete, which more bytes can mend, or malformed, which they cannot. Of
an incomplete frame it is told how many bytes are missing at least, so that a reader never
waits for a byte that need not come.
-/

namespace BatchLens

/-- What stands at the front of a stream of bytes. -/
inductive Frame where
  | complete (payload rest : List UInt8)
  | incomplete (missing : Nat)
  | malformed
  deriving DecidableEq, Repr

namespace Frame

/-- What is found at the front of a stream: a value and the rest, or the reason why not. -/
inductive Found (α : Type) where
  | found (value : α) (rest : List UInt8)
  | incomplete
  | malformed

/-- A line of headers, without its end. -/
def line? : List UInt8 → Found (List UInt8)
  | [] => .incomplete
  | 13 :: 10 :: rest => .found [] rest
  | byte :: rest =>
      if byte == 10 then .malformed
      else match line? rest with
        | .found line behind => .found (byte :: line) behind
        | .incomplete => .incomplete
        | .malformed => .malformed

theorem length_of_line? (bytes : List UInt8) (line rest : List UInt8)
    (found : line? bytes = .found line rest) : rest.length < bytes.length := by
  fun_induction line? bytes generalizing line rest with
  | case1 => simp at found
  | case2 behind =>
      simp only [Found.found.injEq] at found
      rw [← found.2]
      simp only [List.length_cons]
      omega
  | case3 => simp at found
  | case4 byte others _ _ before behind foundBehind ih =>
      simp only [Found.found.injEq] at found
      have shorter := ih before behind foundBehind
      rw [← found.2]
      simp only [List.length_cons]
      omega
  | case5 => simp at found
  | case6 => simp at found

/-- A header: the text in front of the first colon with a space behind it, and the text behind. -/
def splitHeader? : Text → Option (Text × Text)
  | [] => none
  | ':' :: ' ' :: value => some ([], value)
  | c :: rest => (splitHeader? rest).map fun (name, value) => (c :: name, value)

/-- The number of bytes that a header value tells: decimal digits, with a plus sign in front or
not, that do not make more than 64 bits. -/
def size? (value : Text) : Option Nat :=
  let digits := Text.dropLeading '+' value
  if digits.isEmpty || !digits.all Char.isDigit then none
  else
    let size := Json.Reader.digitsValue digits
    if size < 0x10000000000000000 then some size else none

/-- What a line of headers says about the length of the payload, given what was said before;
nothing if it is no header. -/
def header? (before : Option Nat) (line : List UInt8) : Option (Option Nat) := do
  let text ← Text.ofUtf8? line
  let (name, value) ← splitHeader? text
  if Text.sameIgnoringAsciiCase name "Content-Length".toList then (size? value).map some
  else some before

/-- The length of the payload, which has to be told before the empty line. -/
def payloadSize? (size : Option Nat) (bytes : List UInt8) : Found Nat :=
  match _isLine : line? bytes with
  | .incomplete => .incomplete
  | .malformed => .malformed
  | .found [] rest =>
      match size with
      | some size => .found size rest
      | none => .malformed
  | .found (byte :: others) rest =>
      match header? size (byte :: others) with
      | some size => payloadSize? size rest
      | none => .malformed
termination_by bytes.length
decreasing_by exact length_of_line? bytes _ _ _isLine

/-- The frame at the front of a stream. -/
def first (bytes : List UInt8) : Frame :=
  match payloadSize? none bytes with
  | .incomplete => .incomplete 1
  | .malformed => .malformed
  | .found size rest =>
      if rest.length < size then .incomplete (size - rest.length)
      else .complete (rest.take size) (rest.drop size)

/-- The message that a payload spells. -/
def message? (payload : List UInt8) : Option Message :=
  (Text.ofUtf8? payload).bind Message.parse?

/-- The messages at the front of a stream, at most as many as allowed. A frame that is incomplete
or malformed, or that spells no message, is the end. -/
def messagesWithin : Nat → List UInt8 → List Message
  | 0, _ => []
  | count + 1, bytes =>
      match first bytes with
      | .complete payload rest =>
          match message? payload with
          | some message => message :: messagesWithin count rest
          | none => []
      | _ => []

/-- All messages of a stream. There are fewer of them than bytes. -/
def messages (bytes : List UInt8) : List Message := messagesWithin bytes.length bytes

/-- A text as the payload of a frame. -/
def ofText (payload : Text) : List UInt8 :=
  Text.toUtf8 ("Content-Length: ".toList ++ Text.ofNat payload.byteLen ++ "\r\n\r\n".toList ++
    payload)

end Frame

end BatchLens
