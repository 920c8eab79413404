import BatchLens.Text.Basic

/-!
# The batch language

How the language is called, and which files are written in it: those whose extension is `bat`
or `cmd` in any case.

The extension of a path is what follows the last dot of its last component, unless that dot is
the first character of the component. Slashes at the end and components that consist of one dot
are left out of account; a component of two dots has no extension.
-/

namespace BatchLens

namespace Language

/-- The name of the language in the protocol. -/
def id : Text := "bat".toList

/-- The name of the language as it is shown. -/
def displayName : Text := "Batch".toList

/-- The extensions of batch files. -/
def extensions : List Text := ["bat".toList, "cmd".toList]

/-- Whether an extension is one of those, whatever the case of its letters. -/
def isExtension (extension : Text) : Bool :=
  extensions.contains (Text.asciiLower extension)

/-- The components of a path that name something. The first of a relative path may be one
dot. -/
def components (path : Text) : List Text :=
  match path.split '/' with
  | [] => []
  | first :: others =>
      let named (component : Text) : Bool := !component.isEmpty && component != ['.']
      (if first.isEmpty then [] else [first]) ++ others.filter named

/-- The name of the file that a path leads to, if it ends in a name. -/
def fileName? (path : Text) : Option Text :=
  match (components path).getLast? with
  | some name => if name == ['.'] || name == ['.', '.'] then none else some name
  | none => none

/-- The extension of a file name, if it has one. -/
def extensionOf? (name : Text) : Option Text :=
  let extension := Text.takeEndWhile (· != '.') name
  let stem := (Text.dropEndWhile (· != '.') name).dropLast
  if stem.isEmpty then none else some extension

/-- Whether a path leads to a batch file. -/
def isBatchFile (path : Text) : Bool :=
  match (fileName? path).bind extensionOf? with
  | some extension => isExtension extension
  | none => false

end Language

end BatchLens
