import BatchLens.Text.Basic

/-!
# UTF-8

A text as bytes, and the text that bytes spell. Reading is strict: sequences that are cut
short, longer than they need be, or that stand for a surrogate or for nothing in Unicode make
the whole unreadable.
-/

namespace BatchLens.Text

/-- The bytes of a text. -/
def toUtf8 (text : Text) : List UInt8 := text.flatMap String.utf8EncodeChar

/-- The payload of a byte that continues a sequence. -/
def continuation? (byte : UInt8) : Option Nat :=
  if 0x80 ≤ byte && byte < 0xC0 then some (byte.toNat - 0x80) else none

/-- The character of a code, provided that it takes at least `least` and is no surrogate. -/
def charOf? (least code : Nat) : Option Char :=
  if least ≤ code && code < 0x110000 && !(0xD800 ≤ code && code ≤ 0xDFFF) then
    some (Char.ofNat code)
  else none

/-- The text that the bytes spell, if they are well-formed. -/
def ofUtf8? : List UInt8 → Option Text
  | [] => some []
  | first :: rest =>
      let lead := first.toNat
      if lead < 0x80 then do
        let others ← ofUtf8? rest
        some (Char.ofNat lead :: others)
      else if 0xC0 ≤ lead && lead < 0xE0 then
        match rest with
        | second :: rest => do
            let second ← continuation? second
            let c ← charOf? 0x80 ((lead - 0xC0) * 0x40 + second)
            let others ← ofUtf8? rest
            some (c :: others)
        | _ => none
      else if 0xE0 ≤ lead && lead < 0xF0 then
        match rest with
        | second :: third :: rest => do
            let second ← continuation? second
            let third ← continuation? third
            let c ← charOf? 0x800 (((lead - 0xE0) * 0x40 + second) * 0x40 + third)
            let others ← ofUtf8? rest
            some (c :: others)
        | _ => none
      else if 0xF0 ≤ lead && lead < 0xF8 then
        match rest with
        | second :: third :: fourth :: rest => do
            let second ← continuation? second
            let third ← continuation? third
            let fourth ← continuation? fourth
            let c ← charOf? 0x10000
              ((((lead - 0xF0) * 0x40 + second) * 0x40 + third) * 0x40 + fourth)
            let others ← ofUtf8? rest
            some (c :: others)
        | _ => none
      else none

end BatchLens.Text
