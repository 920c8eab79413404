import BatchLens.Text.Utf8
import BatchLens.Uri.Escape

/-!
# URIs

A URI is the name of a document. Two URIs name the same document when they are equal in this
form, in which everything that may be written in several ways is written in one of them.
-/

namespace BatchLens

/-- Where in a network a document is kept. -/
structure UriAuthority where
  /-- The user, escaped, with a password behind a colon if there is one. -/
  user : Text
  host : Text
  /-- The port, unless it is the usual one of the scheme. -/
  port : Option Nat
  deriving DecidableEq, Repr

/-- Where at its place a document is kept. -/
inductive UriPath where
  /-- A text that means something in its scheme only. -/
  | whole (text : Text)
  /-- What stands between the slashes. -/
  | segments (names : List Text)
  deriving DecidableEq, Repr

/-- The name of a document. -/
structure Uri where
  scheme : Text
  authority : Option UriAuthority
  path : UriPath
  query : Option Text
  fragment : Option Text
  deriving DecidableEq, Repr

namespace Uri

/-- Whether the document is kept on this machine, as far as its host tells. -/
def isLocal (uri : Uri) : Bool :=
  match uri.authority with
  | none => true
  | some authority => authority.host.isEmpty || authority.host == "localhost".toList

/-- The path of the document in the file system of this machine. Each of its bytes is given as
the character of that number, so that paths that are not UTF-8 have one as well. -/
def filePath? (uri : Uri) : Option Text :=
  match uri.path with
  | .whole _ => none
  | .segments [] => none
  | .segments names =>
      if uri.isLocal then
        some (names.flatMap fun name => '/' :: (unescape name).map fun byte =>
          Char.ofNat byte.toNat)
      else none

end Uri

end BatchLens
