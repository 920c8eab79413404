import BatchLens.Environment.Process
import BatchLens.Files.Path

/-!
# Where things are kept

The settings file is kept in the cache folder, and the log files in the data folder, of the
user. Both folders follow from the environment: a variable of their own if it is set and
readable, or else a place below the home folder.
-/

namespace BatchLens

namespace Location

/-- The folder that a variable names, or else a place below the home folder. -/
def userFolder? (environment : ProcessEnvironment) (own belowHome : String) : Option Text :=
  match environment.exactValue? own.toList with
  | some folder => some folder
  | none => (environment.exactValue? "HOME".toList).map fun home => Path.join home belowHome

/-- The path of the settings file. -/
def settingsFile? (environment : ProcessEnvironment) : Option Text :=
  (userFolder? environment "XDG_CACHE_HOME" ".cache").map fun folder =>
    Path.join (Path.join folder ".cmdlang") "settings.json"

/-- The folder of the log files. -/
def logFolder? (environment : ProcessEnvironment) : Option Text :=
  (userFolder? environment "XDG_DATA_HOME" ".local/share").map fun folder =>
    Path.join (Path.join folder "cmdlang") "logs"

/-- The folder for temporary files, if its name is readable. -/
def temporaryFolder? (environment : ProcessEnvironment) : Option Text :=
  match environment.entries.find? (·.name == Text.toUtf8 "TMPDIR".toList) with
  | some entry => Text.ofUtf8? entry.value
  | none => some "/tmp".toList

/-- The folder of the log files among the temporary files. -/
def temporaryLogFolder? (environment : ProcessEnvironment) : Option Text :=
  (temporaryFolder? environment).map fun folder => Path.join (Path.join folder "cmdlang") "logs"

end Location

end BatchLens
