import BatchLens.Uri.Basic
import BatchLens.Uri.Host
import BatchLens.Uri.Path

/-!
# Reading URIs

The schemes fall into three kinds. In the schemes of the web a host has to be there, however
many slashes stand in front of it; a file may have a host and always has a path; and in all
other schemes two slashes announce a host, one slash announces a path, and everything else is
a text of its own. In the first two kinds a backslash is as good as a slash. White space
around a URI, and tabs and line ends inside, do not belong to it. A text without a scheme is
not a URI.
-/

namespace BatchLens.Uri

/-- How the schemes differ. -/
inductive SchemeKind where
  | web
  | file
  | other
  deriving DecidableEq, Repr

/-- The schemes of the web with their usual ports. -/
def webPorts : List (String × Nat) :=
  [("http", 80), ("https", 443), ("ws", 80), ("wss", 443), ("ftp", 21)]

/-- The usual port of a scheme. -/
def usualPort? (scheme : Text) : Option Nat :=
  (webPorts.find? fun entry => entry.1.toList == scheme).map (·.2)

/-- The kind of a scheme. -/
def kindOf (scheme : Text) : SchemeKind :=
  if (usualPort? scheme).isSome then .web
  else if scheme == "file".toList then .file
  else .other

/-- The text without white space and control characters around it. -/
def trimmed (text : Text) : Text := Text.trim (fun c => c.toNat ≤ 0x20) text

/-- What may stand in a scheme behind its first letter. -/
def isSchemeChar (c : Char) : Bool := c.isAlphanum || ['+', '-', '.'].contains c

/-- The scheme in lower case, and the text behind its colon. -/
def splitScheme? (text : Text) : Option (Text × Text) :=
  match Text.splitFirst? ':' text with
  | some (first :: others, rest) =>
      let others := withoutLineMarks others
      if first.isAlpha && others.all isSchemeChar then
        some (Text.asciiLower (first :: others), rest)
      else none
  | _ => none

/-- The text in front of a mark, and the text behind it if the mark is there. -/
def splitAtMark (mark : Char) (text : Text) : Text × Option Text :=
  match Text.splitFirst? mark text with
  | some (before, behind) => (before, some behind)
  | none => (text, none)

/-- The user and the password, escaped. A colon with no password behind it is left out. -/
def userText (text : Text) : Text :=
  match Text.splitFirst? ':' text with
  | some (user, password) =>
      escape isEscapedInUser user ++
        (if password.isEmpty then [] else ':' :: escape isEscapedInUser password)
  | none => escape isEscapedInUser text

/-- The host, and what follows from the first colon outside of brackets on. -/
def splitHost (inBrackets : Bool) : Text → Text × Text
  | [] => ([], [])
  | c :: rest =>
      if c == ':' && !inBrackets then ([], c :: rest)
      else
        let inBrackets := if c == '[' then true else if c == ']' then false else inBrackets
        let (host, behind) := splitHost inBrackets rest
        (c :: host, behind)

/-- The port behind a host, with the colon in front. -/
def port? : Text → Option (Option Nat)
  | [] => some none
  | [_] => some none
  | _ :: digits => ((numberOf? 10 digits).filter (· ≤ 65535)).map some

/-- The authority that a text spells, and what is left of the text from the first backslash behind
the host on. Behind a user and in front of a port there has to be a host, and behind the mark of
a user there has to be one unless the URI ends there. -/
def authority? (scheme : Text) (isEnd : Bool) (text : Text) :
    Option (UriAuthority × Text) := do
  let isWeb := kindOf scheme == .web
  let marked := Text.splitLast? '@' text
  let user := (marked.map (userText ·.1)).getD []
  let isBare := !isEnd && marked.any (·.1.isEmpty)
  let (hostText, behind) := splitHost false ((marked.map (·.2)).getD text)
  if hostText.isEmpty && (isWeb || isBare || !user.isEmpty || !behind.isEmpty) then none
  let host ← if isWeb then webHost? hostText else plainHost? hostText
  let port ← port? (behind.takeWhile (· != '\\'))
  some (⟨user, host, port.filter fun port => usualPort? scheme != some port⟩,
    behind.dropWhile (· != '\\'))

/-- The text with slashes for its backslashes. -/
def withSlashes (text : Text) : Text := text.map fun c => if c == '\\' then '/' else c

/-- The authority and the path of a URI of the web. -/
def webPlace? (scheme text : Text) : Option (UriAuthority × UriPath) := do
  let text := (withSlashes text).dropWhile (· == '/')
  let (authority, _) ← authority? scheme true (text.takeWhile (· != '/'))
  let path := Text.dropLeading '/' (text.dropWhile (· != '/'))
  some (authority, .segments (segmentsOf path))

/-- The host of a file, empty for this machine. -/
def fileHost? (text : Text) : Option Text :=
  if text.isEmpty then some []
  else (webHost? text).map fun host => if host == "localhost".toList then [] else host

/-- The text behind some characters, tabs and line ends not counted. -/
def dropCounted : Nat → Text → Text
  | 0, text => text
  | _, [] => []
  | count + 1, c :: rest => dropCounted (if isLineMark c then count + 1 else count) rest

/-- The authority and the path of a file. A drive letter in the place of the host begins the
path, and one at the beginning of the path leaves no host. The slash behind two slashes and no
host is a segment of its own, which is empty; it goes with the other empty ones at the front. -/
def filePlace? (text : Text) : Option (UriAuthority × UriPath) := do
  let text := withSlashes text
  let (host, path) ← match withoutLineMarks text with
    | '/' :: '/' :: rest =>
        let hostText := rest.takeWhile (· != '/')
        if isDrive hostText then some ([], dropCounted 2 text)
        else
          let path := dropCounted (2 + hostText.length) text
          (fileHost? hostText).map fun host =>
            (host, if host.isEmpty then path else dropCounted 1 path)
    | '/' :: _ => some ([], dropCounted 1 text)
    | _ => some ([], text)
  let route := routeOf true path
  some (⟨[], if route.hasDrive then [] else host, none⟩,
    .segments (withoutLeadingEmpty route.segments))

/-- The authority and the path of a URI of any other scheme. -/
def otherPlace? (scheme : Text) (isEnd : Bool) (text : Text) :
    Option (Option UriAuthority × UriPath) :=
  match text with
  | '/' :: '/' :: rest => do
      let behind := rest.dropWhile (· != '/')
      let (authority, left) ←
        authority? scheme (isEnd && behind.isEmpty) (rest.takeWhile (· != '/'))
      let path := left ++ behind
      some (some authority,
        .segments (if path.isEmpty then [] else segmentsOf (Text.dropLeading '/' path)))
  | '/' :: path => some (none, .segments (segmentsOf path))
  | _ => some (none, .whole (escape isControl text))

/-- The authority and the path of a URI of any scheme, when it is known whether the URI ends
behind them. -/
def place? (scheme : Text) (isEnd : Bool) (text : Text) :
    Option (Option UriAuthority × UriPath) :=
  match kindOf scheme with
  | .web =>
      (webPlace? scheme (withoutLineMarks text)).map fun (authority, path) => (some authority, path)
  | .file => (filePlace? text).map fun (authority, path) => (some authority, path)
  | .other => otherPlace? scheme isEnd (withoutLineMarks text)

/-- The URI that a text spells. -/
def parse? (text : Text) : Option Uri := do
  let (scheme, rest) ← splitScheme? (trimmed text)
  let (rest, fragment) := splitAtMark '#' rest
  let (rest, query) := splitAtMark '?' rest
  let (authority, path) ← place? scheme (query.isNone && fragment.isNone) rest
  let isWebLike := kindOf scheme != .other
  some {
    scheme
    authority
    path
    query := query.map fun query => escape (isEscapedInQuery isWebLike) (withoutLineMarks query)
    fragment := fragment.map fun fragment =>
      escape isEscapedInFragment (withoutLineMarks fragment) }

end BatchLens.Uri
