import BatchLens.Text.Hexadecimal
import BatchLens.Text.Utf8

/-!
# Escaped characters

A character that may not stand as itself in a part of a URI is written as the bytes of its
UTF-8 form, each as a percent sign and two hexadecimal digits. Which characters these are
depends on the part. Escapes that are there already are kept as they are written, since the
percent sign may always stand as itself.
-/

namespace BatchLens.Uri

/-- A byte as a percent sign and two upper-case hexadecimal digits. -/
def escapeByte (byte : UInt8) : Text :=
  '%' :: Text.asciiUpper [Text.hexDigit (byte.toNat / 16), Text.hexDigit (byte.toNat % 16)]

/-- The text in which the characters that may not stand as themselves are escaped. -/
def escape (isEscaped : Char → Bool) (text : Text) : Text :=
  text.flatMap fun c => if isEscaped c then (Text.toUtf8 [c]).flatMap escapeByte else [c]

/-- The byte that two hexadecimal digits spell. -/
def byte? (high low : Char) : Option UInt8 := do
  let high ← Text.hexValue? high
  let low ← Text.hexValue? low
  some (UInt8.ofNat (16 * high + low))

/-- The bytes that a text stands for: those of its escapes, and those of all other characters
in UTF-8. -/
def unescape : Text → List UInt8
  | '%' :: high :: low :: rest =>
      match byte? high low with
      | some byte => byte :: unescape rest
      | none => Text.toUtf8 ['%'] ++ unescape (high :: low :: rest)
  | c :: rest => Text.toUtf8 [c] ++ unescape rest
  | [] => []

/-- Control characters and everything outside ASCII, which are escaped in every part. -/
def isControl (c : Char) : Bool := c.toNat < 0x20 || 0x7E < c.toNat

/-- What is escaped in a fragment. -/
def isEscapedInFragment (c : Char) : Bool :=
  isControl c || [' ', '"', '<', '>', '\x60'].contains c

/-- What is escaped in a query. A quote is escaped only in the schemes of the web. -/
def isEscapedInQuery (ofWeb : Bool) (c : Char) : Bool :=
  isControl c || [' ', '"', '#', '<', '>'].contains c || (ofWeb && c == '\x27')

/-- What is escaped in a path. -/
def isEscapedInPath (c : Char) : Bool :=
  isEscapedInFragment c || ['#', '?', '\x7b', '\x7d'].contains c

/-- What is escaped in the name of a user. -/
def isEscapedInUser (c : Char) : Bool :=
  isEscapedInPath c || ['/', ':', ';', '=', '@', '[', '\\', ']', '^', '|'].contains c

end BatchLens.Uri
