import BatchLens.Protocol.Capabilities
import BatchLens.Protocol.Client
import BatchLens.Protocol.Message
import BatchLens.Protocol.Server
import BatchLens.Protocol.ServerError

/-!
# Sessions

A session goes from the first message of an editor to its last. First the editor introduces
itself; until then other requests are refused and notifications are passed over. It has to
confirm the reply before the server begins its work. Then every request has one reply and
every notification has none, until the editor asks the server to shut down; after that it has
to leave. An editor may also leave at any time while the server works. Everything else ends
the session with an error.

`Session.receive` says what one message does, and `Session.run` what all of them do, one after the
other (`run_append`).
-/

namespace BatchLens

/-- How far a session has come. -/
inductive Session where
  /-- The editor has not introduced itself yet. -/
  | opened (settings : Settings) (environment : Environment)
  /-- The editor has introduced itself, and has to confirm the reply. -/
  | greeted (server : Server)
  /-- The server works. -/
  | working (server : Server)
  /-- The server has stopped to work, and the editor has to leave. -/
  | leaving
  /-- The session has ended, as agreed or with an error. -/
  | ended (outcome : Except ServerError Unit)

namespace Session

/-- The name of the method by which an editor introduces itself. -/
def greeting : Text := "initialize".toList

/-- The name of the method by which an editor confirms that it was introduced. -/
def confirmation : Text := "initialized".toList

/-- The name of the method by which an editor asks the server to shut down. -/
def shutdown : Text := "shutdown".toList

/-- The name of the method by which an editor leaves. -/
def exit : Text := "exit".toList

/-- The session that ended because something else was expected. -/
def unexpected (expected : String) : Session := .ended (.error (.protocol expected.toList))

/-- The name and the version of the server. -/
def serverInfo : Json :=
  .object [
    Json.member "name" (.text "cmdlang"),
    Json.member "version" (.text "0.1.0")]

/-- What the server says of itself. -/
def introduction (encoding : PositionEncoding) (settings : Settings) : Json :=
  .object [
    Json.member "capabilities" (encoding.capabilities settings),
    Json.member "serverInfo" serverInfo]

/-- The reply to what an editor says of itself, and the session after it. -/
def greet (settings : Settings) (environment : Environment) (id : Token) (params : Json) :
    Session × Option Reply :=
  match Client.ofJson? params with
  | none => (.ended (.error (.json "invalid initialize params".toList)), none)
  | some client =>
      let settings := client.settings settings
      (.greeted (Server.start settings environment client.encoding),
        some ⟨id, .ok (introduction client.encoding settings)⟩)

/-- What a message does before the editor has introduced itself. -/
def receiveOpened (settings : Settings) (environment : Environment) :
    Message → Session × Option Reply
  | .request id method params =>
      if method = greeting then greet settings environment id params
      else (.opened settings environment, some ⟨id, .error .notStarted⟩)
  | .notification method _ =>
      if method = exit then (unexpected "expected initialize request", none)
      else (.opened settings environment, none)
  | .response _ => (unexpected "expected initialize request", none)

/-- What a message does before the editor has confirmed the reply. -/
def receiveGreeted (server : Server) : Message → Session × Option Reply
  | .notification method _ =>
      if method = confirmation then (.working server, none)
      else (unexpected "expected initialized notification", none)
  | _ => (unexpected "expected initialized notification", none)

/-- What a message does while the server works. -/
def receiveWorking (server : Server) : Message → Session × Option Reply
  | .request id method params =>
      if method = shutdown then (.leaving, some ⟨id, .ok .null⟩)
      else (.working server, some ⟨id, (server.respond method params).map Answer.toJson⟩)
  | .notification method params =>
      if method = exit then (.ended (.ok ()), none)
      else (.working (server.notify method params), none)
  | .response _ => (.working server, none)

/-- What a message does after the server has stopped to work. -/
def receiveLeaving : Message → Session × Option Reply
  | .notification method _ =>
      if method = exit then (.ended (.ok ()), none)
      else (unexpected "unexpected message during shutdown", none)
  | _ => (unexpected "unexpected message during shutdown", none)

/-- What a message does: the session after it, and the reply if it has one. -/
def receive : Session → Message → Session × Option Reply
  | opened settings environment, message => receiveOpened settings environment message
  | greeted server, message => receiveGreeted server message
  | working server, message => receiveWorking server message
  | leaving, message => receiveLeaving message
  | ended outcome, _ => (.ended outcome, none)

/-- How the session ends when no more messages come. -/
def hangUp : Session → Except ServerError Unit
  | opened _ _ => .error (.protocol "disconnected channel".toList)
  | greeted _ => .error (.protocol "disconnected channel".toList)
  | working _ => .error .disconnected
  | leaving => .error (.protocol "channel disconnected waiting for exit notification".toList)
  | ended outcome => outcome

/-- What messages do: the session after them, and the replies in their order. -/
def run : Session → List Message → Session × List Reply
  | session, [] => (session, [])
  | session, message :: others =>
      let (next, reply) := session.receive message
      let (last, replies) := run next others
      (last, reply.toList ++ replies)

theorem run_append (session : Session) (first second : List Message) :
    session.run (first ++ second) =
      (((session.run first).1.run second).1,
        (session.run first).2 ++ ((session.run first).1.run second).2) := by
  induction first generalizing session with
  | nil => simp [run]
  | cons message others ih => simp [run, ih]

end Session

end BatchLens
