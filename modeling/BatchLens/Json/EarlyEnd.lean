import BatchLens.Json.Reader

/-!
# Texts that end too early

What to say about a text that ends before it has spelled a JSON value: what was being read, and
where the text ends, as a line and the number of bytes in that line.
-/

namespace BatchLens.Json

/-- What was being read when a text ended after at most an opening bracket. -/
def openAtEnd? (text : Text) : Option String :=
  match Reader.skipSpace text with
  | [] => some "a value"
  | '{' :: rest => if (Reader.skipSpace rest).isEmpty then some "an object" else none
  | '[' :: rest => if (Reader.skipSpace rest).isEmpty then some "a list" else none
  | _ => none

/-- The error of reading a text that ends after at most an opening bracket. -/
def earlyEndMessage? (text : Text) : Option Text :=
  (openAtEnd? text).map fun what =>
    let line := text.count '\n' + 1
    let column := Text.byteLen (Text.takeEndWhile (· != '\n') text)
    "EOF while parsing ".toList ++ what.toList ++ " at line ".toList ++ Text.ofNat line ++
      " column ".toList ++ Text.ofNat column

end BatchLens.Json
