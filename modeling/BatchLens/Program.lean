import BatchLens.Protocol.Frame
import BatchLens.Protocol.Session
import BatchLens.Settings.File

/-!
# The program

A run of the program: it writes the settings file if there is none, reads its settings from it,
makes the folder for its logs, and holds a session over its standard input and output with the
variables of its process as the environment. Settings that cannot be read are the default
settings, and a folder that cannot be made is done without; only the session decides how
the run ends.
-/

namespace BatchLens

namespace Program

/-- Makes the folder for logs: the one of the user, or else one for temporary files. -/
def makeLogFolder (environment : ProcessEnvironment) (tree : FileTree) : FileTree :=
  match Location.ensureLogFolder environment tree with
  | (.ok _, tree) => tree
  | (.error _, tree) =>
      match Location.temporaryLogFolder? environment with
      | some path => (tree.makeFoldersAt path).2
      | none => tree

/-- Prepares a run: the settings, and the files after it. -/
def prepare (environment : ProcessEnvironment) (tree : FileTree) : Settings × FileTree :=
  let (_, tree) := Settings.ensure environment tree
  let settings := (Settings.load? environment tree).getD {}
  (settings, makeLogFolder environment tree)

/-- The session that a run begins with. -/
def session (environment : ProcessEnvironment) (settings : Settings) : Session :=
  .opened settings environment.toEnvironment

/-- What is said of an error. -/
def complaint (error : ServerError) : Text := "cmdlang: ".toList ++ error.display

/-- What a run leaves behind. -/
structure Run where
  outcome : Except ServerError Unit
  replies : List Reply
  files : FileTree

/-- A run over the bytes of standard input. -/
def run (environment : ProcessEnvironment) (tree : FileTree) (input : List UInt8) : Run :=
  let (settings, files) := prepare environment tree
  let (last, replies) := (session environment settings).run (Frame.messages input)
  ⟨last.hangUp, replies, files⟩

end Program

end BatchLens
