import BatchLens.Protocol.ClientCapabilities
import BatchLens.Protocol.Params
import BatchLens.Settings.Json

/-!
# Clients

What an editor says of itself when it sets up the connection. Only the encodings that it can
count columns in and its options matter here; the other members are read as well, and one that
is malformed makes the whole unreadable.
-/

namespace BatchLens

/-- What an editor says of itself. -/
structure Client where
  /-- The names of the encodings that it can count columns in, if it says so. -/
  encodings : Option (List Text)
  /-- Settings that take the place of those in the settings file. -/
  options : Option Json

namespace Client

/-- How much an editor wants to be told of what goes on. -/
def trace : Json.Shape := .name ["off", "messages", "verbose"]

/-- Reads a folder that is open in an editor. -/
def folder? (json : Json) : Option Uri :=
  match json.fields? ["uri", "name"] with
  | some [uri, name] => do
      let uri ← uri.required Uri.ofJson?
      let _ ← name.required Json.string?
      some uri
  | _ => none

/-- Reads the name and the version of an editor. -/
def info? (json : Json) : Option Text :=
  match json.fields? ["name", "version"] with
  | some [name, version] => do
      let name ← name.required Json.string?
      let _ ← version.optional Json.string?
      some name
  | _ => none

/-- Whether the members that do not matter here are well-formed. -/
def isPlausible (params : Json) : Bool :=
  match params.objectFields? ["processId", "rootPath", "rootUri", "trace", "workspaceFolders",
      "clientInfo", "locale", "workDoneToken"] with
  | some [process, path, uri, trace, folders, info, locale, progress] =>
      (process.optional Json.word?).isSome && (path.optional Json.string?).isSome &&
        (uri.optional Uri.ofJson?).isSome && (trace.optional (Option.guard Client.trace.accepts)).isSome &&
        (folders.optional (Json.list? folder?)).isSome && (info.optional info?).isSome &&
        (locale.optional Json.string?).isSome && Params.areTokens [progress]
  | _ => false

/-- Reads what an editor says of itself. -/
def ofJson? (params : Json) : Option Client :=
  match params.objectFields? ["capabilities", "initializationOptions"] with
  | some [capabilities, options] => do
      let encodings ← capabilities.required ClientCapabilities.encodings?
      let options ← options.optional some
      if isPlausible params then some { encodings, options } else none
  | _ => none

/-- The settings of an editor's options, or else those that there were; options that do not
spell settings count as none. -/
def settings (client : Client) (fallback : Settings) : Settings :=
  (client.options.bind Settings.ofJson?).getD fallback

/-- The encoding to count columns in with this editor. -/
def encoding (client : Client) : PositionEncoding := PositionEncoding.negotiate client.encodings

end Client

end BatchLens
