import BatchLens.Program

/-!
# The command line

The program itself: it prepares its files, and carries frames between standard input, the
session and standard output until the session ends. The exit code tells whether it ended as
agreed; if not, standard error says why.
-/

namespace BatchLens

namespace CommandLine

/-- Does something that may fail, and tells whether it succeeded. -/
def attempt (action : IO Unit) : IO Bool := do
  try
    action
    pure true
  catch _ => pure false

/-- The variables of this process. -/
def processEnvironment : IO ProcessEnvironment := do
  try
    let block ← IO.FS.readBinFile "/proc/self/environ"
    pure (ProcessEnvironment.ofBlock block.toList)
  catch _ => pure (ProcessEnvironment.ofBlock [])

/-- Writes the default settings to a path unless there is something already. -/
def ensureSettings (path : Text) : IO Unit := do
  IO.FS.createDirAll (String.ofList (Text.dropEndWhile (· != '/') path))
  let file ← IO.FS.Handle.mk (String.ofList path) .writeNew
  file.putStr (String.ofList (Settings.pretty {}))

/-- The settings at a path, or the default settings if they cannot be read. -/
def loadSettings (path : Text) : IO Settings := do
  try
    let content ← IO.FS.readBinFile (String.ofList path)
    pure (((Text.ofUtf8? content.toList).bind Settings.parse?).getD {})
  catch _ => pure {}

/-- Makes the folder for logs. -/
def makeLogFolder (environment : ProcessEnvironment) : IO Unit := do
  let make (folder : Option Text) : IO Bool :=
    match folder with
    | some path => attempt (IO.FS.createDirAll (String.ofList path))
    | none => pure false
  unless ← make (Location.logFolder? environment) do
    discard (make (Location.temporaryLogFolder? environment))

/-- Prepares the files, and reads the settings. -/
def prepare (environment : ProcessEnvironment) : IO Settings := do
  let settings ← match Location.settingsFile? environment with
    | some path => do
        discard (attempt (ensureSettings path))
        loadSettings path
    | none => pure {}
  makeLogFolder environment
  pure settings

/-- Sends a reply. -/
def send (output : IO.FS.Stream) (reply : Reply) : IO Unit := do
  output.write ⟨(Frame.ofText reply.toJson.compact).toArray⟩
  output.flush

/-- Carries frames until the session ends; `buffer` was read already. -/
partial def converse (input output : IO.FS.Stream) (session : Session) (buffer : List UInt8) :
    IO (Except ServerError Unit) := do
  match session with
  | .ended outcome => return outcome
  | _ =>
      match Frame.first buffer with
      | .malformed => return session.hangUp
      | .incomplete missing =>
          let bytes ← input.read (USize.ofNat (min missing 65536))
          if bytes.isEmpty then return session.hangUp
          converse input output session (buffer ++ bytes.toList)
      | .complete payload rest =>
          match Frame.message? payload with
          | none => return session.hangUp
          | some message =>
              let (next, reply) := session.receive message
              if let some reply := reply then send output reply
              converse input output next rest

/-- Runs the program, and tells its exit code. -/
def run : IO UInt32 := do
  let environment ← processEnvironment
  let settings ← prepare environment
  let session := Program.session environment settings
  match ← converse (← IO.getStdin) (← IO.getStdout) session [] with
  | .ok () => return 0
  | .error error =>
      IO.eprintln (String.ofList (Program.complaint error))
      return 1

end CommandLine

end BatchLens

def main : IO UInt32 := BatchLens.CommandLine.run
