import BatchLens.Files.Tree
import BatchLens.Settings.Json
import BatchLens.Settings.Location

/-!
# The settings file

The file is written with the default settings when it is not there yet, and never touched
otherwise. Reading it fails as any file may fail to be read, and also when its content is not
UTF-8 or does not spell settings.
-/

namespace BatchLens

/-- Why a file or folder that the environment should locate is not available. -/
inductive LocationError where
  /-- The environment does not say where the settings are. -/
  | noSettingsFolder
  /-- The environment does not say where the logs are. -/
  | noLogFolder
  /-- A file operation failed. -/
  | file (error : FileError)
  deriving DecidableEq, Repr

namespace LocationError

/-- The error in words, where it is not one of a file operation. -/
def message? : LocationError → Option Text
  | noSettingsFolder => some "Cannot determine settings directory".toList
  | noLogFolder => some "Cannot determine log directory".toList
  | file _ => none

/-- The kind of failure. -/
def kind : LocationError → FileError
  | file error => error
  | _ => .notFound

end LocationError

namespace Settings

/-- Makes the folder that a path leads into, unless something is there already. -/
def prepareFolder (tree : FileTree) (path : Text) : Except FileError Unit × FileTree :=
  let above := (Path.names path).dropLast
  match tree.find above with
  | .ok _ => (.ok (), tree)
  | .error _ => tree.makeFolders above.reverse

/-- Writes the default settings to a path unless there is something already. -/
def ensureAt (tree : FileTree) (path : Text) : Except FileError Unit × FileTree :=
  match prepareFolder tree path with
  | (.error error, tree) => (.error error, tree)
  | (.ok (), tree) =>
      if tree.has path then (.ok (), tree)
      else match tree.write path (Text.toUtf8 (pretty {})) with
        | .ok tree => (.ok (), tree)
        | .error error => (.error error, tree)

/-- Reads the settings at a path. -/
def loadFrom (tree : FileTree) (path : Text) : Except FileError Settings := do
  let content ← tree.read path
  match (Text.ofUtf8? content).bind parse? with
  | some settings => .ok settings
  | none => .error .invalidData

/-- Writes the default settings to the settings file unless there is one, and tells its path. -/
def ensure (environment : ProcessEnvironment) (tree : FileTree) :
    Except LocationError Text × FileTree :=
  match Location.settingsFile? environment with
  | none => (.error .noSettingsFolder, tree)
  | some path =>
      match ensureAt tree path with
      | (.ok (), tree) => (.ok path, tree)
      | (.error error, tree) => (.error (.file error), tree)

/-- The settings in the settings file, if they can be read. -/
def load? (environment : ProcessEnvironment) (tree : FileTree) : Option Settings := do
  let path ← Location.settingsFile? environment
  (loadFrom tree path).toOption

end Settings

/-- Makes the folder of the log files, and tells its path. -/
def Location.ensureLogFolder (environment : ProcessEnvironment) (tree : FileTree) :
    Except LocationError Text × FileTree :=
  match Location.logFolder? environment with
  | none => (.error .noLogFolder, tree)
  | some path =>
      match tree.makeFoldersAt path with
      | (.ok (), tree) => (.ok path, tree)
      | (.error error, tree) => (.error (.file error), tree)

end BatchLens
