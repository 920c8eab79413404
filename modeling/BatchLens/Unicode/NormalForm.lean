import BatchLens.Unicode.CombiningClass
import BatchLens.Unicode.Composition

/-!
# The composed normal form

Texts that differ only in how letters and marks are put together have one normal form: all
composites are taken apart, the marks of a letter are put into the order of their classes, and
then each mark is put onto its letter again where a composite exists and no other mark of the
same or a higher class stands in between.

Characters that Unicode has twice are not replaced by each other here.
-/

namespace BatchLens.Unicode

/-- The parts of a character, which is taken apart as often as the steps allow. -/
def partsWithin : Nat → Char → List Char
  | 0, c => [c]
  | steps + 1, c =>
      match decompose? c with
      | some (base, mark) => partsWithin steps base ++ [mark]
      | none => [c]

/-- All parts of a character. No character bears more than four marks. -/
def parts (c : Char) : List Char := partsWithin 4 c

/-- A character behind others, of which the nearest comes first. A mark passes the marks of
higher classes. -/
def placeMark (c : Char) : List Char → List Char
  | [] => [c]
  | last :: rest =>
      if combiningClass c != 0 && combiningClass c < combiningClass last then
        last :: placeMark c rest
      else c :: last :: rest

/-- The text with the marks of each letter in the order of their classes. -/
def withOrderedMarks (text : List Char) : List Char :=
  (text.foldl (fun placed c => placeMark c placed) []).reverse

/-- Whether a mark among those behind a letter keeps the letter from a character of a class. -/
def keepsApart (marks : List Char) (reached : Nat) : Bool :=
  match marks.getLast? with
  | some last => reached ≤ combiningClass last
  | none => false

/-- Puts a text behind a letter, and behind the marks that could not be put onto it. -/
def composeOnto (letter : Char) (marks : List Char) : List Char → List Char
  | [] => letter :: marks
  | c :: rest =>
      let whole? := if keepsApart marks (combiningClass c) then none else compose? letter c
      match whole? with
      | some whole => composeOnto whole marks rest
      | none =>
          if combiningClass c == 0 then letter :: (marks ++ composeOnto c [] rest)
          else composeOnto letter (marks ++ [c]) rest

/-- The text with every mark put onto its letter where that is possible. -/
def composed (text : List Char) : List Char :=
  let isLoose (c : Char) : Bool := combiningClass c != 0
  text.takeWhile isLoose ++
    match text.dropWhile isLoose with
    | [] => []
    | letter :: rest => composeOnto letter [] rest

/-- The composed normal form of a text. -/
def normalForm (text : List Char) : List Char :=
  composed (withOrderedMarks (text.flatMap parts))

end BatchLens.Unicode
