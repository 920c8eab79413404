import BatchLens.Proofs.Protocol.Notification
import BatchLens.Proofs.Protocol.Position

/-!
# What is kept under a name

The text that a server keeps under a name is decided by the notifications about that name alone,
in their order (`documents_of_history`). The rule for one name is stated without any
workspace: `storedAfter` says what an event does to the text that is kept, if one is. It cuts texts
only at character boundaries, and would lose the text if an editor could make it cut anywhere
else; that the server agrees with it says in particular that this never happens.
-/

namespace BatchLens

/-- The text with the bytes of a range replaced, if both ends of the range are character
boundaries. -/
def Text.spliced? (text : Text) (range : ByteRange) (new : Text) : Option Text := do
  let before ← text.slice? ⟨0, range.start⟩
  let behind ← text.slice? ⟨range.stop, text.byteLen⟩
  some (before ++ new ++ behind)

theorem Text.spliced?_cut (before removed behind new : Text) :
    Text.spliced? (before ++ removed ++ behind)
      ⟨before.byteLen, (before ++ removed).byteLen⟩ new = some (before ++ new ++ behind) := by
  have first := Text.slice?_cut [] before (removed ++ behind)
  have last := Text.slice?_cut (before ++ removed) behind []
  simp only [List.nil_append, Text.byteLen_nil, ← List.append_assoc] at first
  simp only [List.append_nil] at last
  simp only [Text.spliced?, first, last, Option.bind_eq_bind, Option.bind_some]

/-- The text after a change, whose range is told by positions in the text before it. -/
def ContentChange.textAfter? (encoding : PositionEncoding) (text : Text)
    (change : ContentChange) : Option Text :=
  match change.range with
  | some range => text.spliced? (Document.byteRangeOf ⟨text⟩ encoding range) change.text
  | none => some change.text

/-- What is kept of a document after an event about it. -/
def Event.storedAfter (encoding : PositionEncoding) (stored : Option Text) :
    Event → Option Text
  | .opened uri languageId text =>
      if Server.isBatchDocument uri languageId then some text else stored
  | .changed _ changes => do
      let text ← stored
      changes.foldlM (ContentChange.textAfter? encoding) text
  | .closed _ => none

/-- What is kept of a document after a notification about it. -/
def Notification.storedAfter (encoding : PositionEncoding) (stored : Option Text)
    (notification : Notification) : Option Text :=
  match notification.event? with
  | some event => event.storedAfter encoding stored
  | none => stored

/-- What is kept of a document of which nothing was kept, after some notifications about it. -/
def Notification.storedAfterAll (encoding : PositionEncoding)
    (notifications : List Notification) : Option Text :=
  notifications.foldl (storedAfter encoding) none

namespace Server

/-! ## One step -/

theorem textAfter?_eq_changed (encoding : PositionEncoding) (text : Text)
    (change : ContentChange) :
    change.textAfter? encoding text = some (changed encoding ⟨text⟩ change).text := by
  rw [ContentChange.textAfter?, changed]
  cases change.range with
  | none => rfl
  | some range =>
      rcases Document.isPart_byteRangeOf ⟨text⟩ encoding range with
        ⟨before, removed, behind, rfl, bytes⟩
      simp only [bytes, Text.spliced?_cut, Document.replace_cut]

theorem foldlM_textAfter?_eq_foldl_changed (encoding : PositionEncoding)
    (changes : List ContentChange) (text : Text) :
    changes.foldlM (ContentChange.textAfter? encoding) text =
      some (changes.foldl (changed encoding) ⟨text⟩).text := by
  induction changes generalizing text with
  | nil => rfl
  | cons change others ih =>
      rw [List.foldlM_cons, textAfter?_eq_changed, Option.bind_eq_bind, Option.bind_some, ih,
        List.foldl_cons]

/-- An event changes what is kept under its own name and nothing else. -/
theorem document?_observe (server : Server) (event : Event) (uri : Uri) :
    (server.observe event).document? uri =
      if event.uri = uri then
        (event.storedAfter server.encoding ((server.document? uri).map Document.text)).map
          Document.mk
      else server.document? uri := by
  have keep (stored : Option Document) :
      (stored.map Document.text).map Document.mk = stored := by
    cases stored <;> rfl
  cases event with
  | opened name languageId text =>
      simp only [observe, workspaceAfter, document?, Event.uri, Event.storedAfter]
      split
      next accepted =>
        rw [Workspace.document?_insert]
        by_cases same : name = uri
        · simp [same]
        · simp [same, Ne.symm same]
      next => simp [keep]
  | changed name changes =>
      simp only [observe, workspaceAfter, document?, Event.uri, Event.storedAfter]
      split
      next document found =>
        rw [Workspace.document?_insert]
        by_cases same : name = uri
        · subst same
          simp [found, foldlM_textAfter?_eq_foldl_changed]
        · simp [same, Ne.symm same]
      next missing =>
        by_cases same : name = uri
        · subst same
          simp [missing]
        · simp [same]
  | closed name =>
      simp only [observe, workspaceAfter, document?, Event.uri, Event.storedAfter]
      rw [Workspace.document?_erase]
      by_cases same : name = uri
      · simp [same]
      · simp [same, Ne.symm same]

/-- A notification about a document changes what is kept of it by the rule for one document. -/
theorem document?_after_of_isAbout (server : Server) {notification : Notification} {uri : Uri}
    (about : notification.isAbout uri = true) :
    (server.after notification).document? uri =
      (notification.storedAfter server.encoding
        ((server.document? uri).map Document.text)).map Document.mk := by
  rw [Notification.isAbout, Option.any_eq_true] at about
  rcases about with ⟨event, tells, named⟩
  rw [after_eq, Notification.storedAfter, tells]
  simp only [document?_observe, if_pos (beq_iff_eq.mp named)]

/-- A notification about another document, or about none, changes nothing. -/
theorem document?_after_of_not_isAbout (server : Server) {notification : Notification} {uri : Uri}
    (notAbout : notification.isAbout uri = false) :
    (server.after notification).document? uri = server.document? uri := by
  rw [after_eq]
  cases tells : notification.event? with
  | none => rfl
  | some event =>
      have differs : event.uri ≠ uri := by
        simpa [Notification.isAbout, tells] using notAbout
      simp only [document?_observe, if_neg differs]

/-! ## Any number of steps -/

/-- What is kept under a name after some notifications follows from what was kept and from those
of them that are about the name. -/
theorem document?_afterAll (server : Server) (notifications : List Notification) (uri : Uri) :
    (server.afterAll notifications).document? uri =
      ((notifications.filter (Notification.isAbout uri)).foldl
        (Notification.storedAfter server.encoding)
        ((server.document? uri).map Document.text)).map Document.mk := by
  induction notifications generalizing server with
  | nil => cases found : server.document? uri <;> simp [afterAll, found]
  | cons notification others ih =>
      have unfolded : server.afterAll (notification :: others) =
          (server.after notification).afterAll others := rfl
      rw [unfolded, ih, encoding_after]
      cases about : notification.isAbout uri with
      | true =>
          have kept (stored : Option Text) :
              (stored.map Document.mk).map Document.text = stored := by
            cases stored <;> rfl
          rw [List.filter_cons_of_pos about, List.foldl_cons,
            document?_after_of_isAbout server about, kept]
      | false =>
          rw [List.filter_cons_of_neg (by simp [about]),
            document?_after_of_not_isAbout server about]

theorem afterAll_concat (server : Server) (notifications : List Notification)
    (last : Notification) :
    server.afterAll (notifications ++ [last]) = (server.afterAll notifications).after last := by
  simp [afterAll]

/-- What a server keeps under each name is decided by the notifications about that name. So two
runs in which every document has the same notifications in the same order keep the same, whatever
comes in between; and a document that was just opened, or just closed, has no history. -/
theorem documents_of_history (settings : Settings) (environment : Environment)
    (encoding : PositionEncoding) (notifications : List Notification) :
    let server := start settings environment encoding
    (∀ uri, (server.afterAll notifications).document? uri =
      (Notification.storedAfterAll encoding
        (notifications.filter (Notification.isAbout uri))).map Document.mk) ∧
    (∀ others : List Notification,
      (∀ uri, others.filter (Notification.isAbout uri) =
        notifications.filter (Notification.isAbout uri)) →
      ∀ uri, (server.afterAll others).document? uri =
        (server.afterAll notifications).document? uri) ∧
    (∀ last : Notification, ∀ uri, last.isAbout uri = false →
      (server.afterAll (notifications ++ [last])).document? uri =
        (server.afterAll notifications).document? uri) ∧
    (∀ last : Notification, ∀ uri languageId text,
      last.event? = some (.opened uri languageId text) →
      isBatchDocument uri languageId = true →
      (server.afterAll (notifications ++ [last])).document? uri = some ⟨text⟩) ∧
    (∀ last : Notification, ∀ uri, last.event? = some (.closed uri) →
      (server.afterAll (notifications ++ [last])).document? uri = none) := by
  intro server
  have folded (several : List Notification) (uri : Uri) :
      (server.afterAll several).document? uri =
        (Notification.storedAfterAll encoding
          (several.filter (Notification.isAbout uri))).map Document.mk :=
    server.document?_afterAll several uri
  refine ⟨folded notifications, ?_, ?_, ?_, ?_⟩
  · intro others same uri
    rw [folded, folded, same]
  · intro last uri notAbout
    rw [afterAll_concat, document?_after_of_not_isAbout _ notAbout]
  · intro last uri languageId text tells accepted
    have about : last.isAbout uri = true := by simp [Notification.isAbout, tells, Event.uri]
    rw [afterAll_concat, document?_after_of_isAbout _ about, Notification.storedAfter, tells]
    simp [Event.storedAfter, accepted]
  · intro last uri tells
    have about : last.isAbout uri = true := by simp [Notification.isAbout, tells, Event.uri]
    rw [afterAll_concat, document?_after_of_isAbout _ about, Notification.storedAfter, tells]
    simp [Event.storedAfter]

end Server

end BatchLens
