import BatchLens.Protocol.Server

/-!
# Notifications

A notification tells of an event only under one of three methods and only if its parameters can be
read (`ofNotification?_eq_event?`). All others leave the server as it is. A run of
notifications is received one after the other, and only what a server keeps changes.
-/

namespace BatchLens

/-- A notification as it arrives. -/
structure Notification where
  method : Text
  params : Json

namespace Notification

/-- What a notification tells, if its method is known and its parameters can be read. -/
def event? (notification : Notification) : Option Event :=
  if notification.method = "textDocument/didOpen".toList then
    Event.opened? notification.params
  else if notification.method = "textDocument/didChange".toList then
    Event.changed? notification.params
  else if notification.method = "textDocument/didClose".toList then
    Event.closed? notification.params
  else none

/-- Whether a notification tells something about a document. -/
def isAbout (uri : Uri) (notification : Notification) : Bool :=
  notification.event?.any fun event => event.uri == uri

theorem event?_didOpen (params : Json) :
    event? ⟨"textDocument/didOpen".toList, params⟩ = Event.opened? params := by
  simp [event?]

theorem event?_didChange (params : Json) :
    event? ⟨"textDocument/didChange".toList, params⟩ = Event.changed? params := by
  simp [event?]

theorem ofNotification?_eq_event? (notification : Notification) :
    Event.ofNotification? notification.method notification.params = notification.event? := by
  rw [event?]
  split
  next isOpened => simp [Event.ofNotification?, Event.readers, isOpened]
  next notOpened =>
    split
    next isChanged => simp [Event.ofNotification?, Event.readers, isChanged]
    next notChanged =>
      split
      next isClosed => simp [Event.ofNotification?, Event.readers, isClosed]
      next notClosed =>
        have unknown : Event.readers.find? (fun reader => reader.1.toList == notification.method) =
            none := by
          simp only [Event.readers, List.find?_eq_none, List.forall_mem_cons, beq_iff_eq]
          exact ⟨Ne.symm notOpened, Ne.symm notChanged, Ne.symm notClosed, by simp⟩
        simp [Event.ofNotification?, unknown]

end Notification

namespace Server

/-- The server after a notification. -/
def after (server : Server) (notification : Notification) : Server :=
  server.notify notification.method notification.params

/-- The server after several notifications. -/
def afterAll (server : Server) (notifications : List Notification) : Server :=
  notifications.foldl after server

theorem after_eq (server : Server) (notification : Notification) :
    server.after notification =
      match notification.event? with
      | some event => server.observe event
      | none => server := by
  have told := Notification.ofNotification?_eq_event? notification
  exact congrArg
    (fun event? : Option Event => match event? with
      | some event => server.observe event
      | none => server) told

@[simp]
theorem encoding_after (server : Server) (notification : Notification) :
    (server.after notification).encoding = server.encoding := by
  rw [after_eq]
  cases notification.event? <;> rfl

@[simp]
theorem settings_after (server : Server) (notification : Notification) :
    (server.after notification).settings = server.settings := by
  rw [after_eq]
  cases notification.event? <;> rfl

@[simp]
theorem environment_after (server : Server) (notification : Notification) :
    (server.after notification).environment = server.environment := by
  rw [after_eq]
  cases notification.event? <;> rfl

/-- A document that is opened as a batch file is kept. -/
theorem document?_after_opened (server : Server) {notification : Notification} {uri : Uri}
    {languageId text : Text} (tells : notification.event? = some (.opened uri languageId text))
    (accepted : isBatchDocument uri languageId = true) :
    (server.after notification).document? uri = some ⟨text⟩ := by
  simp [after_eq, tells, observe, workspaceAfter, accepted, document?, Workspace.document?_insert]

theorem document?_after_changed (server : Server) {notification : Notification} {uri : Uri}
    {changes : List ContentChange} {document : Document}
    (tells : notification.event? = some (.changed uri changes))
    (kept : server.document? uri = some document) :
    (server.after notification).document? uri =
      some (changes.foldl (changed server.encoding) document) := by
  rw [document?] at kept
  simp [after_eq, tells, observe, workspaceAfter, kept, document?, Workspace.document?_insert]

end Server

end BatchLens
