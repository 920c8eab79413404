import BatchLens.Uri.Escape

/-!
# Paths of URIs

A path is a list of segments. A segment of one dot stands for the folder that was reached, and
one of two dots for the folder above; a dot may be written as an escape. Both are taken
out of the path as it is read, and leave an empty segment when they come last.

The drive letter of a file system that has drives is a segment like any other, except that two
dots do not lead out of it.
-/

namespace BatchLens.Uri

/-- Whether a segment stands for the folder that was reached. -/
def isHere (segment : Text) : Bool :=
  [".", "%2e"].contains (String.ofList (Text.asciiLower segment))

/-- Whether a segment stands for the folder above. -/
def isAbove (segment : Text) : Bool :=
  ["..", "%2e.", ".%2e", "%2e%2e"].contains (String.ofList (Text.asciiLower segment))

/-- Whether a segment is a drive letter, with a colon or a bar behind it. -/
def isDrive : Text → Bool
  | [letter, mark] => letter.isAlpha && (mark == ':' || mark == '|')
  | _ => false

/-- Whether two dots do not lead out of a segment: it is a drive letter, or the way to something on
a drive in which backslashes part the folders. -/
def isRoot (segment : Text) : Bool :=
  isDrive (segment.take 2) && (segment.drop 2).head?.all (· == '\\')

/-- The segments that lead to the folder above. -/
def above (segments : List Text) : List Text :=
  match segments.getLast? with
  | some last => if isRoot last then segments else segments.dropLast
  | none => []

/-- Tabs and line ends, which do not belong to a URI. -/
def isLineMark (c : Char) : Bool := c == '\t' || c == '\n' || c == '\r'

/-- The text without tabs and line ends. -/
def withoutLineMarks (text : Text) : Text := text.filter fun c => !isLineMark c

/-- A segment as it is written. -/
def segmentText (text : Text) : Text := escape isEscapedInPath (withoutLineMarks text)

/-- A drive letter with a colon at the beginning of a segment, and what follows behind a tab or
a line end. -/
def splitBehindDrive? (text : Text) : Option (Text × Text) :=
  let (letter, behind) := (text.dropWhile isLineMark).splitAt 1
  match behind.dropWhile isLineMark with
  | ':' :: rest =>
      let drive := letter ++ [':']
      let next := rest.dropWhile isLineMark
      if isDrive drive && rest.head?.any isLineMark && !next.isEmpty then some (drive, next)
      else none
  | _ => none

/-- The segments that were reached, and whether the first one was given as a drive letter. -/
structure Route where
  segments : List Text
  hasDrive : Bool

/-- The first segment of the path of a file. A drive letter is written with a colon; what a tab or
a line end parts from it is a segment of its own, whatever it is. -/
def firstOfFile (text : Text) : Route :=
  let segment := segmentText text
  match splitBehindDrive? text with
  | some (drive, behind) => ⟨[drive, segmentText behind], false⟩
  | none =>
      if isDrive segment then ⟨[segment.take 1 ++ [':']], true⟩ else ⟨[segment], false⟩

/-- The route that was taken, continued along the segments that are still to be walked. -/
def walk (ofFile : Bool) (route : Route) : List Text → Route
  | [] => route
  | text :: rest =>
      let segment := segmentText text
      let ending : List Text := if rest.isEmpty then [[]] else []
      if isAbove segment then
        walk ofFile { route with segments := above route.segments ++ ending } rest
      else if isHere segment then
        walk ofFile { route with segments := route.segments ++ ending } rest
      else if ofFile && route.segments.isEmpty then walk ofFile (firstOfFile text) rest
      else walk ofFile { route with segments := route.segments ++ [segment] } rest

/-- The route along a path, which is given from behind its first slash. -/
def routeOf (ofFile : Bool) (path : Text) : Route :=
  walk ofFile ⟨[], false⟩ (Text.split '/' path)

/-- The segments of a path, which is given from behind its first slash. -/
def segmentsOf (path : Text) : List Text := (routeOf false path).segments

/-- The segments without empty ones at the front; at least one is left. -/
def withoutLeadingEmpty (segments : List Text) : List Text :=
  match segments.dropWhile List.isEmpty with
  | [] => [[]]
  | rest => rest

end BatchLens.Uri
