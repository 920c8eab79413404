import BatchLens.Batch.Keyword
import BatchLens.Batch.Span
import BatchLens.Pattern.Search
import BatchLens.Unicode.Fold

/-!
# The lexical grammar of batch text

One pattern for each category. The context that makes a piece of text a token of its category,
such as the start of the line, a space in front or the command before it, is matched outside
the marked token.
-/

namespace BatchLens.Grammar

open Pattern

/-- A character of a given kind: white space. -/
def isSpace (c : Char) : Bool := Unicode.isWhiteSpace c

/-- Anything but white space. -/
def isSolid (c : Char) : Bool := !Unicode.isWhiteSpace c

/-- Anything but a line feed. -/
def isInLine (c : Char) : Bool := c != '\n'

/-- What a label is made of. -/
def isLabelChar (c : Char) : Bool := isSolid c && c != ':'

/-- What stands between the percent signs of a reference. -/
def isReferenceChar (c : Char) : Bool := isSolid c && c != '%'

/-- What the target of an assignment is made of. -/
def isTargetChar (c : Char) : Bool := isSolid c && c != '=' && c != '"'

/-- A given lower-case word in any case. -/
def word : List Char → Pattern
  | [] => empty
  | c :: rest => one (fun x => Unicode.foldToAscii x == c) ++ word rest

/-- One of the given lower-case letters in any case. -/
def letterOf (letters : String) : Pattern :=
  one fun c => letters.toList.contains (Unicode.foldToAscii c)

/-- The rest of the line. -/
def lineRest : Pattern := many isInLine

/-- What begins a remark: the command for it, or two colons. -/
def remark : Pattern :=
  word "rem".toList ++ wordBoundary <|> literal "::".toList

/-- A remark over the whole line, or one that follows a command behind an ampersand. -/
def comment : Pattern :=
  textStart ++ many isSpace ++ token (maybe (char '@') ++ remark ++ lineRest) <|>
  one isSolid ++ many isSpace ++ token (char '&' ++ many isSpace ++ remark ++ lineRest)

/-- Quoted text, or everything that a line echoes. -/
def string : Pattern :=
  char '"' ++ many (· != '"') ++ char '"' <|>
  char '\x27' ++ many (· != '\x27') ++ char '\x27' <|>
  wordBoundary ++ word "echo".toList ++ oneOrMore isSpace ++ token (one isSolid ++ lineRest)

/-- A known word at the start of the text or behind white space, with an at sign in front if
there is one. -/
def keyword : Pattern :=
  (textStart <|> one isSpace) ++
    token (maybe (char '@') ++ anyOf (Keyword.names.map word)) ++ wordBoundary

/-- Command separators, redirections and the other operator characters. -/
def operator : Pattern :=
  literal "&&".toList <|> char '&' <|> literal "||".toList <|> char '|' <|>
  maybe (one fun c => c == '0' || c == '1' || c == '2') ++ char '>' ++ maybe (char '>') <|>
  char '<' <|> char '!' <|> char '=' <|> char '^'

/-- A switch behind white space: a slash or one or two dashes and a word. -/
def parameter : Pattern :=
  one isSpace ++
    token ((char '/' <|> char '-' ++ maybe (char '-')) ++ oneOrMore Unicode.isWordChar)

/-- The target of an assignment, a variable between percent signs, or a modified argument. -/
def identifier : Pattern :=
  wordBoundary ++ word "set".toList ++ oneOrMore isSpace ++
    maybe (char '/' ++ letterOf "ap" ++ oneOrMore isSpace) ++ maybe (char '"') ++
    token (oneOrMore isTargetChar) ++ many isSpace ++ char '=' <|>
  token (char '%' ++ oneOrMore isReferenceChar ++ char '%') <|>
  token (literal "%~".toList ++
    oneOrMore (fun c => "fdpnxsatz".toList.contains (Unicode.foldToAscii c)) ++
    one Unicode.isDecimalDigit)

/-- A label at the start of the text, or the target of a jump. -/
def label : Pattern :=
  textStart ++ many isSpace ++ token (char ':' ++ oneOrMore isLabelChar) <|>
  wordBoundary ++ word "goto".toList ++
    (many isSpace ++ char ':' <|> oneOrMore isSpace) ++ token (oneOrMore isLabelChar)

/-- The pattern of a category. -/
def pattern : Category → Pattern
  | .comment => comment
  | .string => string
  | .keyword => keyword
  | .operator => operator
  | .parameter => parameter
  | .identifier => identifier
  | .label => label

end BatchLens.Grammar
