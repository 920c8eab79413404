import BatchLens.Files.Path

/-!
# File trees

Folders and files, with the ways in which reaching for them can fail. A path is followed from
the top of the tree. Every name on the way has to lead to a folder; two dots lead back to the
folder above, and at the top they lead nowhere else.
-/

namespace BatchLens

/-- Why a file operation failed. -/
inductive FileError where
  /-- A name on the way leads to nothing. -/
  | notFound
  /-- A name on the way leads to a file. -/
  | notAFolder
  /-- The path leads to a folder where a file is needed. -/
  | isAFolder
  /-- The path leads to something already. -/
  | alreadyExists
  /-- The content is not what it should be. -/
  | invalidData
  deriving DecidableEq, Repr

/-- A file, or a folder with its entries. -/
inductive FileTree where
  | file (content : List UInt8)
  | folder (entries : List (Text × FileTree))
  deriving Repr

namespace FileTree

/-- The tree with an empty folder at its top. -/
def empty : FileTree := folder []

/-- The entry of that name. -/
def child? (entries : List (Text × FileTree)) (name : Text) : Option FileTree :=
  entries.lookup name

/-- The entries with one replaced in its place, or added at the end. -/
def setEntry (name : Text) (tree : FileTree) : List (Text × FileTree) → List (Text × FileTree)
  | [] => [(name, tree)]
  | (other, old) :: others =>
      if other == name then (name, tree) :: others else (other, old) :: setEntry name tree others

/-- What stands at the end of plain names. -/
def node? : FileTree → List Text → Option FileTree
  | tree, [] => some tree
  | file _, _ :: _ => none
  | folder entries, name :: rest =>
      match child? entries name with
      | some child => child.node? rest
      | none => none

/-- The tree with something new at the end of plain names; unchanged if the names on the way do
not lead to folders. -/
def put (new : FileTree) : FileTree → List Text → FileTree
  | _, [] => new
  | file content, _ :: _ => file content
  | folder entries, [name] => folder (setEntry name new entries)
  | folder entries, name :: rest =>
      match child? entries name with
      | some child => folder (setEntry name (put new child rest) entries)
      | none => folder entries

/-- The plain names that lead where the given names lead, when `here` was reached already. The
last name need not lead to anything. -/
def resolveFrom (tree : FileTree) (here : List Text) : List Text → Except FileError (List Text)
  | [] => .ok here
  | name :: rest =>
      match tree.node? here with
      | none => .error .notFound
      | some (file _) => .error .notAFolder
      | some (folder _) =>
          if name = ['.', '.'] then tree.resolveFrom here.dropLast rest
          else tree.resolveFrom (here ++ [name]) rest

/-- The plain names that lead where the given names lead. -/
def resolve (tree : FileTree) (names : List Text) : Except FileError (List Text) :=
  tree.resolveFrom [] names

/-- What the names lead to. -/
def find (tree : FileTree) (names : List Text) : Except FileError FileTree := do
  let names ← tree.resolve names
  match tree.node? names with
  | some found => .ok found
  | none => .error .notFound

/-- What a path leads to. The empty path leads nowhere. -/
def follow (tree : FileTree) (path : Text) : Except FileError FileTree :=
  if path.isEmpty then .error .notFound
  else do
    match ← tree.find (Path.names path) with
    | folder entries => .ok (folder entries)
    | file content => if Path.endsInFolder path then .error .notAFolder else .ok (file content)

/-- Whether a path leads to anything. -/
def has (tree : FileTree) (path : Text) : Bool :=
  match tree.follow path with
  | .ok _ => true
  | .error _ => false

/-- Whether names lead to a folder. -/
def hasFolder (tree : FileTree) (names : List Text) : Bool :=
  match tree.find names with
  | .ok (folder _) => true
  | _ => false

/-- The content of the file at a path. -/
def read (tree : FileTree) (path : Text) : Except FileError (List UInt8) := do
  match ← tree.follow path with
  | file content => .ok content
  | folder _ => .error .isAFolder

/-- Writes a file, in place of the one that is there. A path that ends in a dot is followed all
the same, and at best leads to a folder. -/
def write (tree : FileTree) (path : Text) (content : List UInt8) : Except FileError FileTree :=
  if path.isEmpty then .error .notFound
  else do
    let names ← tree.resolve (Path.names path)
    if Path.endsInDot path then
      let _ ← tree.follow path
      .error .isAFolder
    else if Path.endsInFolder path then .error .isAFolder
    else match tree.node? names with
      | some (folder _) => .error .isAFolder
      | _ => .ok (put (file content) tree names)

/-- Makes one folder. -/
def makeFolder (tree : FileTree) (names : List Text) : Except FileError FileTree := do
  let names ← tree.resolve names
  match tree.node? names with
  | some _ => .error .alreadyExists
  | none => .ok (put (folder []) tree names)

/-- The outcome of making a folder that may be there already. -/
def settle (tree : FileTree) (names : List Text) :
    Except FileError FileTree → Except FileError Unit × FileTree
  | .ok made => (.ok (), made)
  | .error error => if tree.hasFolder names then (.ok (), tree) else (.error error, tree)

/-- Makes a folder and the folders that lead to it. The names are given last name first. -/
def makeFolders (tree : FileTree) : List Text → Except FileError Unit × FileTree
  | [] => (.ok (), tree)
  | name :: above =>
      let names := (name :: above).reverse
      match tree.makeFolder names with
      | .error .notFound =>
          match tree.makeFolders above with
          | (.ok (), tree) => settle tree names (tree.makeFolder names)
          | failed => failed
      | made => settle tree names made

/-- Makes the folder that a path leads to, and the folders on the way. What a path that ends in a
dot leads to has to be there already, or to come about with the folders on the way. -/
def makeFoldersAt (tree : FileTree) (path : Text) : Except FileError Unit × FileTree :=
  let names := (Path.names path).reverse
  if Path.endsInDot path then
    match tree.follow path with
    | .error .notFound =>
        match tree.makeFolders names.tail with
        | (.ok (), tree) => ((tree.follow path).map fun _ => (), tree)
        | failed => failed
    | outcome => (outcome.map fun _ => (), tree)
  else tree.makeFolders names

end FileTree

end BatchLens
