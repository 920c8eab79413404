import BatchLens.Proofs.Batch.Ranges
import BatchLens.Proofs.Protocol.SemanticToken
import BatchLens.Proofs.Protocol.Spelling

/-!
# Sessions told by bytes

A session with a document is told by byte offsets: edits replace ranges of bytes, and questions are
about offsets. To send it, an editor turns each offset into a position in the encoding that it has
agreed on, and turns the positions of an answer back into offsets. What comes back is what the
engines say about the text, in bytes, and no trace of the encoding is left
(`seenAfterEach_eq_seenInBytes`). So two servers that differ in nothing but their encoding look the
same from outside (`seen_same_in_encodings`).
-/

namespace BatchLens

/-! ## Sessions -/

/-- An edit told by bytes: a text in place of a range. -/
structure ByteEdit where
  range : ByteRange
  text : Text
  deriving DecidableEq, Repr

/-- The document after some edits, each told in the text that the one before it has left. -/
def Document.edited (document : Document) (edits : List ByteEdit) : Document :=
  edits.foldl (fun document edit => document.replace edit.range edit.text) document

/-- A question about a document, told by bytes. -/
inductive ByteQuestion where
  | hover (offset : Nat)
  | completion (offset : Nat)
  | pairing (offset : Nat) (typed : Text)
  | tokens
  | tokensOfRange (range : ByteRange)

/-- A step of a session: some edits in one notification, or a question. -/
inductive ByteStep where
  | edit (edits : List ByteEdit)
  | ask (question : ByteQuestion)

/-- Whether a question is about places of the document. -/
def ByteQuestion.IsValid (document : Document) : ByteQuestion → Prop
  | hover offset | completion offset | pairing offset _ => document.IsPlace offset
  | tokens => True
  | tokensOfRange range => document.BetweenPlaces range

/-- Whether each edit is made between places of the text at the time, and all the texts fit. -/
def AreValidEdits (fits : Document → Prop) (document : Document) : List ByteEdit → Prop
  | [] => fits document
  | edit :: others =>
      fits document ∧ document.BetweenPlaces edit.range ∧
        AreValidEdits fits (document.replace edit.range edit.text) others

/-- Whether all offsets of a session are places of the text at the time, and all the texts fit. -/
def AreValidSteps (fits : Document → Prop) (document : Document) : List ByteStep → Prop
  | [] => fits document
  | .edit edits :: steps =>
      AreValidEdits fits document edits ∧ AreValidSteps fits (document.edited edits) steps
  | .ask question :: steps =>
      fits document ∧ question.IsValid document ∧ AreValidSteps fits document steps

/-! ## What is sent -/

/-- The changes that tell edits, each by positions in the text that the ones before it have left. -/
def Document.changesOf (document : Document) (encoding : PositionEncoding) :
    List ByteEdit → List ContentChange
  | [] => []
  | edit :: others =>
      ⟨some (document.positionRangeOf encoding edit.range), edit.text⟩ ::
        (document.replace edit.range edit.text).changesOf encoding others

/-- A question with its offsets told by positions. -/
def ByteQuestion.query (uri : Uri) (document : Document) (encoding : PositionEncoding) :
    ByteQuestion → Query
  | hover offset => .hover uri (document.positionOf encoding offset)
  | completion offset => .completion uri (document.positionOf encoding offset)
  | pairing offset typed => .pairing uri (document.positionOf encoding offset) typed
  | tokens => .tokens uri
  | tokensOfRange range => .tokensOfRange uri (document.positionRangeOf encoding range)

/-- A message of an editor. -/
inductive EditorMessage where
  | notification (notification : Notification)
  | request (method : Text) (params : Json)

/-- Whether messages tell the steps of a session, in whatever way they are written. -/
inductive Tell (uri : Uri) (encoding : PositionEncoding) :
    Document → List ByteStep → List EditorMessage → Prop where
  | done (document : Document) : Tell uri encoding document [] []
  | edit {document : Document} {edits : List ByteEdit} {notification : Notification}
      {steps : List ByteStep} {messages : List EditorMessage}
      (tells : notification.event? = some (.changed uri (document.changesOf encoding edits)))
      (others : Tell uri encoding (document.edited edits) steps messages) :
      Tell uri encoding document (.edit edits :: steps) (.notification notification :: messages)
  | ask {document : Document} {question : ByteQuestion} {method : Text} {params : Json}
      {steps : List ByteStep} {messages : List EditorMessage}
      (asks : Query.ofRequest method params = .ok (question.query uri document encoding))
      (others : Tell uri encoding document steps messages) :
      Tell uri encoding document (.ask question :: steps) (.request method params :: messages)

/-- Every session can be told. -/
theorem exists_tell (name : DocumentName) (encoding : PositionEncoding) (document : Document)
    (steps : List ByteStep) : ∃ messages, Tell name.uri encoding document steps messages := by
  induction steps generalizing document with
  | nil => exact ⟨[], .done document⟩
  | cons step steps ih =>
      cases step with
      | edit edits =>
          rcases ih (document.edited edits) with ⟨messages, others⟩
          exact ⟨_, .edit (Notification.event?_changing name _) others⟩
      | ask question =>
          rcases ih document with ⟨messages, others⟩
          have about : (question.query name.uri document encoding).uri = name.uri := by
            cases question <;> rfl
          exact ⟨_, .ask (Query.ofRequest_params name about) others⟩

/-! ## What is seen -/

/-- A token with the two ends of its span in bytes. -/
structure ByteToken where
  line : Nat
  range : ByteRange
  tokenType : Nat
  modifiers : Nat
  deriving DecidableEq, Repr

/-- An answer with its places in bytes. -/
inductive ByteAnswer where
  | nothing
  | hover (contents : List Text) (range : ByteRange)
  | completion (items : List (CompletionItem × Text × ByteEdit))
  | tokens (tokens : List ByteToken)
  | edits (edits : List ByteEdit)
  deriving DecidableEq, Repr

/-- A range of positions in bytes. -/
def Document.bytesOf (document : Document) (encoding : PositionEncoding) (range : PositionRange) :
    ByteRange :=
  ⟨document.offsetOf encoding range.start, document.offsetOf encoding range.stop⟩

/-- An answer as it is seen when its positions are turned into offsets. -/
def Document.inBytes (document : Document) (encoding : PositionEncoding) : Answer → ByteAnswer
  | .nothing => .nothing
  | .hover contents range => .hover contents (document.bytesOf encoding range)
  | .completion items =>
      .completion (items.map fun offered =>
        (offered.item, offered.sortText,
          ⟨document.bytesOf encoding offered.edit.range, offered.edit.newText⟩))
  | .tokens tokens =>
      .tokens ((SemanticToken.decode tokens).map fun token =>
        { line := token.line
          range := document.bytesOf encoding ⟨token.startPosition, token.stopPosition⟩
          tokenType := token.tokenType
          modifiers := token.modifiers })
  | .edits edits =>
      .edits (edits.map fun edit => ⟨document.bytesOf encoding edit.range, edit.newText⟩)

/-- What is seen of a step: the document that is kept after it and, if it was a question, the
answer. -/
structure Seen where
  kept : Option Document
  answer : Option (Except RequestError ByteAnswer)

namespace Server

/-- The server after a message. -/
def receive (server : Server) : EditorMessage → Server
  | .notification notification => server.after notification
  | .request _ _ => server

/-- The answer to a message, with its places in bytes of the document that is kept. -/
def answerInBytes? (server : Server) (uri : Uri) :
    EditorMessage → Option (Except RequestError ByteAnswer)
  | .notification _ => none
  | .request method params =>
      (server.document? uri).map fun document =>
        (server.respond method params).map (document.inBytes server.encoding)

/-- What is seen of each of some messages. -/
def seenAfterEach (uri : Uri) : Server → List EditorMessage → List Seen
  | _, [] => []
  | server, message :: messages =>
      ⟨(server.receive message).document? uri, server.answerInBytes? uri message⟩ ::
        seenAfterEach uri (server.receive message) messages

end Server

/-! ## What the engines say -/

/-- The tokens of some lines in bytes. -/
def Document.tokensInBytes (document : Document) (start stop : Nat) : List ByteToken :=
  (document.numberedSpans start stop).map fun (index, span) =>
    { line := index
      range := ⟨document.lineStart index + span.start, document.lineStart index + span.stop⟩
      tokenType := SemanticToken.typeOf span.category
      modifiers := 0 }

/-- What the engines say to a question about a document. No encoding comes into it. -/
def ByteQuestion.answer (settings : Settings) (environment : Environment) (document : Document) :
    ByteQuestion → ByteAnswer
  | hover offset =>
      match document.hover? environment settings.hover offset with
      | some found => .hover found.contents found.range
      | none => .nothing
  | completion offset =>
      match document.complete? environment settings.completion offset with
      | some set =>
          .completion (set.items.zipIdx.map fun (item, index) =>
            (item, sortText index, ⟨set.replaced, item.insertText⟩))
      | none => .nothing
  | pairing offset typed =>
      let inserted := if settings.pairing.enabled then
        typed.head?.bind (Pairing.insertion? document offset) else none
      match inserted with
      | some (place, close) => .edits [⟨⟨place, place⟩, [close]⟩]
      | none => .nothing
  | tokens => .tokens (document.tokensInBytes 0 document.lineCount)
  | tokensOfRange range =>
      .tokens (document.tokensInBytes (document.lineOfOffset range.start)
        (document.lineOfOffset range.stop + 1))

/-- What is to be seen of the steps of a session. -/
def seenInBytes (settings : Settings) (environment : Environment) (document : Document) :
    List ByteStep → List Seen
  | [] => []
  | .edit edits :: steps =>
      ⟨some (document.edited edits), none⟩ ::
        seenInBytes settings environment (document.edited edits) steps
  | .ask question :: steps =>
      ⟨some document, some (.ok (question.answer settings environment document))⟩ ::
        seenInBytes settings environment document steps

/-! ## Both agree -/

section Agreement

variable {document : Document} {encoding : PositionEncoding}

theorem Document.bytesOf_positionRangeOf (fits : document.Fits encoding) {range : ByteRange}
    (between : document.BetweenPlaces range) :
    document.bytesOf encoding (document.positionRangeOf encoding range) = range := by
  simp only [bytesOf, positionRangeOf, offsetOf_positionOf fits between.start,
    offsetOf_positionOf fits between.stop]

/-- The line of the position of a place is the one that holds it, in every encoding. -/
theorem Document.toNat_line_positionOf (fits : document.Fits encoding) {offset : Nat}
    (place : document.IsPlace offset) :
    (document.positionOf encoding offset).line.toNat = document.lineOfOffset offset := by
  rcases place.exists_located with ⟨earlier, column, rest, ending, later, located⟩
  rw [located.positionOf_eq, fits.toNat_line located, located.lineOfOffset_eq]

/-- An edit between two places is made as it was told. -/
theorem Server.changed_positionRangeOf (fits : document.Fits encoding) {range : ByteRange}
    (between : document.BetweenPlaces range) (text : Text) :
    Server.changed encoding document ⟨some (document.positionRangeOf encoding range), text⟩ =
      document.replace range text := by
  simp only [changed, Document.byteRangeOf, Document.positionRangeOf,
    Document.offsetOf_positionOf fits between.start,
    Document.offsetOf_positionOf fits between.stop, Document.replace]
  rw [← Nat.max_assoc, Nat.max_self]

theorem Document.foldl_changesOf {fits : Document → Prop}
    (allFit : ∀ document, fits document → document.Fits encoding) {edits : List ByteEdit}
    (valid : AreValidEdits fits document edits) :
    (document.changesOf encoding edits).foldl (Server.changed encoding) document =
      document.edited edits := by
  induction edits generalizing document with
  | nil => rfl
  | cons edit others ih =>
      rcases valid with ⟨fitsHere, between, validOthers⟩
      rw [changesOf, List.foldl_cons,
        Server.changed_positionRangeOf (allFit document fitsHere) between, ih validOthers]
      rfl

theorem Document.inBytes_tokens (fits : document.Fits encoding) (start stop : Nat) :
    document.inBytes encoding (.tokens (document.semanticTokens encoding start stop)) =
      .tokens (document.tokensInBytes start stop) := by
  rw [inBytes, SemanticToken.decode_semanticTokens_eq fits, List.map_map, tokensInBytes]
  congr 1
  apply List.map_congr_left
  intro numbered kept
  have describes := describes_of_mem_numberedSpans fits kept
  simp only [Function.comp_apply, bytesOf, describes.line_eq, describes.tokenType_eq,
    describes.modifiers_eq, describes.offsetOf_start, describes.offsetOf_stop]

end Agreement

namespace Server

variable {server : Server} {document : Document} {uri : Uri}

section Questions

variable (kept : server.document? uri = some document) (fits : document.Fits server.encoding)

include kept fits

theorem inBytes_hover {offset : Nat} (place : document.IsPlace offset) :
    document.inBytes server.encoding
        ((server.hover? uri (document.positionOf server.encoding offset)).getD .nothing) =
      (ByteQuestion.hover offset).answer server.settings server.environment document := by
  simp only [hover?, kept, Option.bind_eq_bind, Option.bind_some,
    Document.offsetOf_positionOf fits place, ByteQuestion.answer]
  cases answered : document.hover? server.environment server.settings.hover offset with
  | none => rfl
  | some found =>
      rcases Document.hover?_range answered with ⟨index, span, isLine, isSpan, rangeEq⟩
      have between := Document.betweenPlaces_of_isPart isLine (isPart_of_mem_classify isSpan)
      have back := Document.bytesOf_positionRangeOf fits between
      simp only [Option.bind_some, Option.getD_some, Document.hoverAnswer, Document.inBytes,
        rangeEq]
      exact congrArg _ back

theorem inBytes_completion {offset : Nat} (place : document.IsPlace offset) :
    document.inBytes server.encoding
        ((server.completion? uri (document.positionOf server.encoding offset)).getD .nothing) =
      (ByteQuestion.completion offset).answer server.settings server.environment document := by
  simp only [completion?, kept, Option.bind_eq_bind, Option.bind_some,
    Document.offsetOf_positionOf fits place, ByteQuestion.answer]
  cases answered : document.complete? server.environment server.settings.completion offset with
  | none => rfl
  | some set =>
      rcases Document.complete?_replaced answered with ⟨index, range, isLine, part, replaced⟩
      have between := Document.betweenPlaces_of_isPart isLine part
      rw [← replaced] at between
      have back := Document.bytesOf_positionRangeOf fits between
      simp only [Option.bind_some, Option.getD_some, Document.completionAnswer,
        Document.offeredItems, Document.inBytes, List.map_map]
      congr 1
      apply List.map_congr_left
      intro numbered _
      simp only [Function.comp_apply, back]

theorem inBytes_pairing {offset : Nat} (place : document.IsPlace offset) (typed : Text) :
    document.inBytes server.encoding
        ((server.pairing? uri (document.positionOf server.encoding offset) typed).getD .nothing) =
      (ByteQuestion.pairing offset typed).answer server.settings server.environment document := by
  simp only [pairing?, kept, Option.bind_eq_bind, Option.bind_some,
    Document.offsetOf_positionOf fits place, ByteQuestion.answer]
  cases enabled : server.settings.pairing.enabled with
  | false => rfl
  | true =>
      cases typed with
      | nil => rfl
      | cons c more =>
          cases answered : Pairing.insertion? document offset c with
          | none => simp [answered, Document.inBytes]
          | some inserted =>
              rcases inserted with ⟨insertedAt, close⟩
              have same : insertedAt = offset :=
                (Document.insertion?_offset answered).trans place.clamp_eq
              have between : document.BetweenPlaces ⟨insertedAt, insertedAt⟩ := by
                rw [same]
                exact ⟨place, place⟩
              have back := Document.bytesOf_positionRangeOf fits between
              simp [answered, Document.inBytes, back]

/-- The answer to a question is, in bytes, what the engines say. -/
theorem inBytes_answer {question : ByteQuestion} (valid : question.IsValid document) :
    document.inBytes server.encoding
        (server.answer (question.query uri document server.encoding)) =
      question.answer server.settings server.environment document := by
  cases question with
  | hover offset => exact inBytes_hover kept fits valid
  | completion offset => exact inBytes_completion kept fits valid
  | pairing offset typed => exact inBytes_pairing kept fits valid typed
  | tokens =>
      simp only [ByteQuestion.query, answer, tokens?, kept, Option.bind_eq_bind, Option.bind_some,
        Option.getD_some, ByteQuestion.answer]
      exact Document.inBytes_tokens fits 0 document.lineCount
  | tokensOfRange range =>
      have startLine := Document.toNat_line_positionOf fits valid.start
      have stopLine := Document.toNat_line_positionOf fits valid.stop
      simp only [ByteQuestion.query, answer, tokensOfRange?, kept, Option.bind_eq_bind,
        Option.bind_some, Option.getD_some, ByteQuestion.answer, Document.positionRangeOf,
        startLine, stopLine]
      exact Document.inBytes_tokens fits _ _

end Questions

/-- What is seen of a session is what the engines say about its texts. -/
theorem seenAfterEach_eq_seenInBytes {fits : Document → Prop} {encoding : PositionEncoding}
    (allFit : ∀ document, fits document → document.Fits encoding)
    {steps : List ByteStep} (valid : AreValidSteps fits document steps)
    {messages : List EditorMessage} (tell : Tell uri encoding document steps messages)
    (agreed : server.encoding = encoding) (kept : server.document? uri = some document) :
    server.seenAfterEach uri messages =
      seenInBytes server.settings server.environment document steps := by
  induction tell generalizing server with
  | done document => rfl
  | @edit document edits notification steps messages tells others ih =>
      rcases valid with ⟨validEdits, validSteps⟩
      have keptNext : (server.after notification).document? uri =
          some (document.edited edits) := by
        rw [server.document?_after_changed tells kept, agreed,
          Document.foldl_changesOf allFit validEdits]
      have agreedNext : (server.after notification).encoding = encoding := by
        rw [encoding_after, agreed]
      have seenLater := ih validSteps agreedNext keptNext
      rw [settings_after, environment_after] at seenLater
      simp only [seenAfterEach, receive, answerInBytes?, seenInBytes, keptNext, seenLater]
  | @ask document question method params steps messages asks others ih =>
      rcases valid with ⟨fitsHere, validQuestion, validSteps⟩
      subst agreed
      have answered := inBytes_answer kept (allFit document fitsHere) validQuestion
      have seenLater := ih validSteps rfl kept
      have responded : (server.respond method params).map (document.inBytes server.encoding) =
          .ok (question.answer server.settings server.environment document) := by
        rw [respond, asks, ← answered]
        rfl
      simp only [seenAfterEach, receive, answerInBytes?, seenInBytes, kept, Option.map_some,
        responded, seenLater]

end Server

/-- A session that is told by bytes looks the same on two servers that differ in nothing but their
encoding. After each step both keep the same text, which is that of the session, and both answers to
a question have the same items, contents and texts, and places that lead to the same bytes: those
that the engines give. -/
theorem Server.seen_same_in_encodings (server : Server) {first second : PositionEncoding}
    {opening : Notification} {uri : Uri} {languageId text : Text} {steps : List ByteStep}
    {firstMessages secondMessages : List EditorMessage}
    (opens : opening.event? = some (.opened uri languageId text))
    (accepted : Server.isBatchDocument uri languageId = true)
    (valid : AreValidSteps (fun document => document.Fits first ∧ document.Fits second) ⟨text⟩
      steps)
    (firstTell : Tell uri first ⟨text⟩ steps firstMessages)
    (secondTell : Tell uri second ⟨text⟩ steps secondMessages) :
    let firstServer := { server with encoding := first }.after opening
    let secondServer := { server with encoding := second }.after opening
    firstServer.document? uri = some ⟨text⟩ ∧ secondServer.document? uri = some ⟨text⟩ ∧
      firstServer.seenAfterEach uri firstMessages =
        secondServer.seenAfterEach uri secondMessages ∧
      firstServer.seenAfterEach uri firstMessages =
        seenInBytes server.settings server.environment ⟨text⟩ steps := by
  intro firstServer secondServer
  have firstKept : firstServer.document? uri = some ⟨text⟩ :=
    Server.document?_after_opened _ opens accepted
  have secondKept : secondServer.document? uri = some ⟨text⟩ :=
    Server.document?_after_opened _ opens accepted
  have firstSeen : firstServer.seenAfterEach uri firstMessages =
      seenInBytes server.settings server.environment ⟨text⟩ steps := by
    have seen := Server.seenAfterEach_eq_seenInBytes (fun _ fits => fits.1) valid firstTell
      (Server.encoding_after _ opening) firstKept
    rwa [Server.settings_after, Server.environment_after] at seen
  have secondSeen : secondServer.seenAfterEach uri secondMessages =
      seenInBytes server.settings server.environment ⟨text⟩ steps := by
    have seen := Server.seenAfterEach_eq_seenInBytes (fun _ fits => fits.2) valid secondTell
      (Server.encoding_after _ opening) secondKept
    rwa [Server.settings_after, Server.environment_after] at seen
  exact ⟨firstKept, secondKept, firstSeen.trans secondSeen.symm, firstSeen⟩

/-- A bracket that is typed behind a letter of two bytes, and the bracket that closes it. -/
theorem Server.seen_same_of_bracket :
    let server := Server.start {} ⟨fun _ => none, []⟩ .utf8
    let opening := Notification.opening batchFile Language.id ['é']
    let asking (position : Position) := Query.pairing batchFile.uri position ['(']
    let messages (edited asked : Position) : List EditorMessage :=
      [.notification (.changing batchFile [⟨some ⟨edited, edited⟩, ['(']⟩]),
        .request (asking asked).method ((asking asked).params batchFile)]
    let firstSeen := ({ server with encoding := .utf8 }.after opening).seenAfterEach
      batchFile.uri (messages ⟨0, 2⟩ ⟨0, 3⟩)
    let secondSeen := ({ server with encoding := .utf16 }.after opening).seenAfterEach
      batchFile.uri (messages ⟨0, 1⟩ ⟨0, 2⟩)
    firstSeen = secondSeen ∧
      firstSeen = [⟨some ⟨['é', '(']⟩, none⟩,
        ⟨some ⟨['é', '(']⟩, some (.ok (.edits [⟨⟨3, 3⟩, [')']⟩]))⟩] := by
  intro server opening asking messages firstSeen secondSeen
  let steps : List ByteStep := [.edit [⟨⟨2, 2⟩, ['(']⟩], .ask (.pairing 3 ['('])]
  have fitsLetter (encoding : PositionEncoding) : Document.Fits ⟨['é']⟩ encoding := by
    cases encoding <;> exact ⟨by decide, by decide⟩
  have fitsBoth (encoding : PositionEncoding) : Document.Fits ⟨['é', '(']⟩ encoding := by
    cases encoding <;> exact ⟨by decide, by decide⟩
  have behindLetter : Document.IsPlace ⟨['é']⟩ 2 := ⟨['é'], [], rfl, by decide, by decide⟩
  have atEnd : Document.IsPlace ⟨['é', '(']⟩ 3 := ⟨['é', '('], [], rfl, by decide, by decide⟩
  have valid : AreValidSteps (fun document => document.Fits .utf8 ∧ document.Fits .utf16)
      ⟨['é']⟩ steps :=
    ⟨⟨⟨fitsLetter _, fitsLetter _⟩, ⟨behindLetter, behindLetter⟩, fitsBoth _, fitsBoth _⟩,
      ⟨fitsBoth _, fitsBoth _⟩, atEnd, fitsBoth _, fitsBoth _⟩
  have firstTell : Tell batchFile.uri .utf8 ⟨['é']⟩ steps (messages ⟨0, 2⟩ ⟨0, 3⟩) :=
    .edit (Notification.event?_changing batchFile _)
      (.ask (Query.ofRequest_params batchFile rfl) (.done _))
  have secondTell : Tell batchFile.uri .utf16 ⟨['é']⟩ steps (messages ⟨0, 1⟩ ⟨0, 2⟩) :=
    .edit (Notification.event?_changing batchFile _)
      (.ask (Query.ofRequest_params batchFile rfl) (.done _))
  have opens := Notification.event?_opening batchFile Language.id ['é']
  have seen := Server.seen_same_in_encodings server opens isBatchDocument_batchFile valid
    firstTell secondTell
  refine ⟨seen.2.2.1, seen.2.2.2.trans ?_⟩
  have closed : (ByteQuestion.pairing 3 ['(']).answer server.settings server.environment
      ⟨['é', '(']⟩ = .edits [⟨⟨3, 3⟩, [')']⟩] := by
    decide +kernel
  rw [← closed]
  rfl

end BatchLens
