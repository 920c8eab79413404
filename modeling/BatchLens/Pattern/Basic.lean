import BatchLens.Text.Basic
import BatchLens.Unicode.WordChar

/-!
# Patterns

A small language of lexical patterns. A pattern is tried at a place of a text, and
`Pattern.hits` lists all the ways in which it matches there, the preferred one first: a
repetition prefers more characters, a choice prefers its first branch, and a sequence prefers
whatever its first part prefers. Matching is thus leftmost-first, and the best match at a
place is the head of the list.

Part of a match can be marked as the token that the pattern is after; the rest is context that
has to be present but is not reported.
-/

namespace BatchLens

/-- A place in a text: the character before it, its byte offset, and what follows. -/
structure Place where
  previous : Option Char
  offset : Nat
  rest : Text
  deriving DecidableEq, Repr

namespace Place

/-- The place before the first character of a text. -/
def start (text : Text) : Place := ⟨none, 0, text⟩

/-- The place behind the character `c`, which the text `rest` follows. -/
def after (place : Place) (c : Char) (rest : Text) : Place :=
  ⟨some c, place.offset + c.utf8Size, rest⟩

/-- Whether exactly one of the two characters around the place belongs to a word. -/
def atWordBoundary (place : Place) : Bool :=
  let before := place.previous.any Unicode.isWordChar
  let behind := place.rest.head?.any Unicode.isWordChar
  before != behind

/-- The places reached from here over zero or more characters that pass `test`, the farthest
first, put in front of `nearer`. -/
def runs (test : Char → Bool) (nearer : List Place) (previous : Option Char) (offset : Nat) :
    Text → List Place
  | [] => ⟨previous, offset, []⟩ :: nearer
  | c :: rest =>
      let here : Place := ⟨previous, offset, c :: rest⟩
      if test c then runs test (here :: nearer) (some c) (offset + c.utf8Size) rest
      else here :: nearer

end Place

/-- Lexical patterns. -/
inductive Pattern where
  /-- Matches without taking anything. -/
  | empty
  /-- Matches at the start of the text only, without taking anything. -/
  | textStart
  /-- Matches where a word begins or ends, without taking anything. -/
  | wordBoundary
  /-- Takes one character that passes the test. -/
  | one (test : Char → Bool)
  /-- Takes zero or more characters that pass the test, preferably many. -/
  | many (test : Char → Bool)
  /-- The first pattern and then the second. -/
  | seq (first second : Pattern)
  /-- Either pattern, preferably the first. -/
  | either (first second : Pattern)
  /-- The pattern, and what it takes is the token. -/
  | token (body : Pattern)

/-- One way in which a pattern matches: where it ends, and the token if one was marked. -/
structure Hit where
  place : Place
  token : Option ByteRange
  deriving DecidableEq, Repr

namespace Pattern

instance : Append Pattern := ⟨Pattern.seq⟩

instance : OrElse Pattern := ⟨fun first second => Pattern.either first (second ())⟩

/-- One or more characters that pass the test, preferably many. -/
def oneOrMore (test : Char → Bool) : Pattern := one test ++ many test

/-- The pattern or nothing, preferably the pattern. -/
def maybe (body : Pattern) : Pattern := body <|> empty

/-- One given character. -/
def char (c : Char) : Pattern := one (· == c)

/-- The characters of a text, one after the other. -/
def literal : Text → Pattern
  | [] => empty
  | c :: rest => char c ++ literal rest

/-- One of the patterns, preferably an early one. -/
def anyOf : List Pattern → Pattern
  | [] => one fun _ => false
  | [pattern] => pattern
  | pattern :: others => pattern <|> anyOf others

/-- All ways in which a pattern matches at a place, the preferred first. -/
def hits : Pattern → Place → List Hit
  | empty, place => [⟨place, none⟩]
  | textStart, place => if place.offset = 0 then [⟨place, none⟩] else []
  | wordBoundary, place => if place.atWordBoundary then [⟨place, none⟩] else []
  | one test, place =>
      match place.rest with
      | [] => []
      | c :: rest => if test c then [⟨place.after c rest, none⟩] else []
  | many test, place =>
      (Place.runs test [] place.previous place.offset place.rest).map fun reached =>
        ⟨reached, none⟩
  | seq first second, place =>
      (first.hits place).flatMap fun hit =>
        (second.hits hit.place).map fun next => ⟨next.place, hit.token.or next.token⟩
  | either first second, place => first.hits place ++ second.hits place
  | token body, place =>
      (body.hits place).map fun hit =>
        ⟨hit.place, some ⟨place.offset, hit.place.offset⟩⟩

/-- The preferred match at a place. -/
def hit? (pattern : Pattern) (place : Place) : Option Hit :=
  (pattern.hits place).head?

end Pattern

end BatchLens
