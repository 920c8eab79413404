import BatchLens.Proofs.Protocol.Position
import BatchLens.Proofs.Protocol.Spelling
import BatchLens.Proofs.Text.Breaks

/-!
# The editor's own copy

An editor keeps a copy of every document that it has open, and tells the server only what changes,
by positions in its copy. The protocol says where a line of that copy ends; the server ends lines
also at the other line breaks of Unicode. So a position is resolved to the place that the editor
means exactly when no such break comes before it (`offsetOf_eq_iff_of_denotes`), and the two copies
stay the same as long as no change reaches behind one (`sessionsAgree_before_extraBreaks`). One
vertical tab is enough to drive them apart (`not_sessionsAgree`).

Columns have an exception of their own: the greatest number of 32 bits leads to the end of its
line, which is another place if the line takes more units than that.
-/

namespace BatchLens

/-! ## What an editor means -/

/-- Whether a position of an editor denotes the place behind `before` in its text: it tells the
number of the line, as the protocol counts lines, and the units from the start of that line. -/
def Position.Denotes (position : Position) (encoding : PositionEncoding) (text before : Text) :
    Prop :=
  ∃ earlier column rest ending later,
    text.protocolLines = earlier ++ ⟨column ++ rest, ending⟩ :: later ∧
      before = Line.joined earlier ++ column ∧
      position.line.toNat = earlier.length ∧
      position.character.toNat = encoding.unitCount column

/-- Whether the column of a position is not the greatest number, or else its line takes fewer than
2^32 units. -/
def Position.ColumnFits (position : Position) (encoding : PositionEncoding) (text : Text) : Prop :=
  position.character.toNat < 0xFFFFFFFF ∨
    ∀ line, text.protocolLines[position.line.toNat]? = some line →
      encoding.unitCount line.content < 0x100000000

/-- The changes of a text that an editor can tell, when `denotes` says which places its positions
denote. -/
inductive EditorChange (denotes : Position → Text → Text → Prop) :
    Text → ContentChange → Text → Prop where
  | whole (text new : Text) : EditorChange denotes text ⟨none, new⟩ new
  | ranged {before removed behind : Text} {start stop : Position} (new : Text)
      (startDenotes : denotes start (before ++ removed ++ behind) before)
      (stopDenotes : denotes stop (before ++ removed ++ behind) (before ++ removed)) :
      EditorChange denotes (before ++ removed ++ behind) ⟨some ⟨start, stop⟩, new⟩
        (before ++ new ++ behind)

/-- Several changes, each of the text that the one before it has left. -/
inductive EditorChanges (denotes : Position → Text → Text → Prop) :
    Text → List ContentChange → Text → Prop where
  | done (text : Text) : EditorChanges denotes text [] text
  | step {text between final : Text} {change : ContentChange} {changes : List ContentChange}
      (first : EditorChange denotes text change between)
      (others : EditorChanges denotes between changes final) :
      EditorChanges denotes text (change :: changes) final

/-- The notifications by which an editor tells of its changes to a document, each with the text
that the editor has after it. -/
inductive EditorSession (denotes : Position → Text → Text → Prop) (uri : Uri) :
    Text → List (Notification × Text) → Prop where
  | done (text : Text) : EditorSession denotes uri text []
  | step {text next : Text} {notification : Notification} {changes : List ContentChange}
      {others : List (Notification × Text)}
      (tells : notification.event? = some (.changed uri changes))
      (made : EditorChanges denotes text changes next)
      (session : EditorSession denotes uri next others) :
      EditorSession denotes uri text ((notification, next) :: others)

/-- What a server keeps of a document after each of some notifications. -/
def Server.documentAfterEach (uri : Uri) : Server → List Notification → List (Option Document)
  | _, [] => []
  | server, notification :: others =>
      (server.after notification).document? uri ::
        documentAfterEach uri (server.after notification) others

/-- Whether server and editor have the same text throughout every session, when `denotes` says
which places the editor's positions denote. -/
def SessionsAgree (denotes : PositionEncoding → Position → Text → Text → Prop) : Prop :=
  ∀ (server : Server) (opening : Notification) (uri : Uri) (languageId text : Text)
    (session : List (Notification × Text)),
    opening.event? = some (.opened uri languageId text) →
    Server.isBatchDocument uri languageId = true →
    EditorSession (denotes server.encoding) uri text session →
    (server.after opening).document? uri = some ⟨text⟩ ∧
      (server.after opening).documentAfterEach uri (session.map Prod.fst) =
        session.map fun step => some ⟨step.2⟩

/-! ## Positions -/

section Denotes

variable {encoding : PositionEncoding} {position : Position} {text before : Text}

/-- A position leads to the place that an editor means if no break that only the server knows
comes before it. -/
theorem offsetOf_eq_of_denotes (denotes : position.Denotes encoding text before)
    (fits : position.ColumnFits encoding text) (plain : ∀ c ∈ before, Text.isExtraBreak c = false) :
    Document.offsetOf ⟨text⟩ encoding position = before.byteLen := by
  rcases denotes with
    ⟨earlier, column, editorRest, editorEnding, editorLater, lines, rfl, lineEq, characterEq⟩
  rcases Text.cut_of_linesBy lines rfl with ⟨editorBefore, whole⟩
  have serverBefore := (Text.linesBy_isLineBreak_eq plain).trans editorBefore
  rcases Text.exists_first_line Unicode.isLineBreak
    (editorRest ++ (editorEnding ++ Line.joined editorLater)) with
    ⟨⟨rest, ending⟩, later, serverBehind⟩
  have located := Document.located_of_cut whole serverBefore serverBehind
  rw [← Text.text_eq_of_linesBy lines rfl] at located
  apply located.offsetOf_eq lineEq characterEq
  intro more
  rcases fits with small | small
  · exact small
  · have isLine : text.protocolLines[position.line.toNat]? =
        some ⟨column ++ editorRest, editorEnding⟩ := by
      simp [lines, lineEq]
    rcases Text.exists_protocol_content serverBehind with
      ⟨behindBreak, protocolEnding, protocolLater, editorBehind⟩
    have restEq : editorRest = rest ++ behindBreak := by
      have behind := (Text.linesBy_behind lines rfl).symm.trans editorBehind
      simp only [List.cons.injEq, Line.mk.injEq] at behind
      exact behind.1.1
    have fewUnits := small _ isLine
    have someUnits := encoding.unitCount_pos more
    simp only [restEq, PositionEncoding.unitCount_append] at fewUnits
    omega

/-- A position leads to an earlier place than the editor means if such a break comes before it. -/
theorem offsetOf_lt_of_denotes (denotes : position.Denotes encoding text before)
    {c : Char} (isBefore : c ∈ before) (extra : Text.isExtraBreak c = true) :
    Document.offsetOf ⟨text⟩ encoding position < before.byteLen := by
  rcases denotes with
    ⟨editorEarlier, editorColumn, editorRest, editorEnding, editorLater, lines, rfl, lineEq, _⟩
  rcases Text.cut_of_linesBy lines rfl with ⟨editorBefore, whole⟩
  rcases Text.exists_last_line Unicode.isLineBreak
    (Line.joined editorEarlier ++ editorColumn) with ⟨earlier, column, serverBefore⟩
  rcases Text.exists_first_line Unicode.isLineBreak
    (editorRest ++ (editorEnding ++ Line.joined editorLater)) with
    ⟨⟨rest, ending⟩, later, serverBehind⟩
  have located := Document.located_of_cut whole serverBefore serverBehind
  rw [← Text.text_eq_of_linesBy lines rfl] at located
  apply located.offsetOf_lt
  have more := List.countP_pos_iff.mpr ⟨c, isBefore, extra⟩
  have counted := Text.length_linesBy_isLineBreak (Line.joined editorEarlier ++ editorColumn)
  rw [serverBefore, Text.protocolLines, editorBefore] at counted
  simp only [List.length_append, List.length_singleton] at counted
  omega

theorem offsetOf_eq_iff_of_denotes (denotes : position.Denotes encoding text before)
    (fits : position.ColumnFits encoding text) :
    Document.offsetOf ⟨text⟩ encoding position = before.byteLen ↔
      ∀ c ∈ before, Text.isExtraBreak c = false := by
  constructor
  · intro same c isBefore
    cases extra : Text.isExtraBreak c with
    | false => rfl
    | true =>
        have := offsetOf_lt_of_denotes denotes isBefore extra
        omega
  · exact offsetOf_eq_of_denotes denotes fits

end Denotes

/-! ## Sessions -/

section Sessions

variable {encoding : PositionEncoding} {denotes : Position → Text → Text → Prop}

theorem changed_of_editorChange
    (resolved : ∀ position text before, denotes position text before →
      Document.offsetOf ⟨text⟩ encoding position = before.byteLen)
    {text final : Text} {change : ContentChange} (made : EditorChange denotes text change final) :
    Server.changed encoding ⟨text⟩ change = ⟨final⟩ := by
  cases made with
  | whole text new => rfl
  | @ranged before removed behind start stop new startDenotes stopDenotes =>
      have bytes : Document.byteRangeOf ⟨before ++ removed ++ behind⟩ encoding ⟨start, stop⟩ =
          ⟨before.byteLen, (before ++ removed).byteLen⟩ := by
        simp only [Document.byteRangeOf, resolved _ _ _ startDenotes, resolved _ _ _ stopDenotes]
        simp
      simp only [Server.changed, bytes, Document.replace_cut]

theorem foldl_changed_of_editorChanges
    (resolved : ∀ position text before, denotes position text before →
      Document.offsetOf ⟨text⟩ encoding position = before.byteLen)
    {text final : Text} {changes : List ContentChange}
    (made : EditorChanges denotes text changes final) :
    changes.foldl (Server.changed encoding) ⟨text⟩ = ⟨final⟩ := by
  induction made with
  | done text => rfl
  | step first others ih => rw [List.foldl_cons, changed_of_editorChange resolved first, ih]

theorem documentAfterEach_of_editorSession
    (resolved : ∀ position text before, denotes position text before →
      Document.offsetOf ⟨text⟩ encoding position = before.byteLen)
    {uri : Uri} {text : Text} {session : List (Notification × Text)}
    (held : EditorSession denotes uri text session) {server : Server}
    (agreed : server.encoding = encoding) (kept : server.document? uri = some ⟨text⟩) :
    server.documentAfterEach uri (session.map Prod.fst) =
      session.map fun step => some ⟨step.2⟩ := by
  induction held generalizing server with
  | done text => rfl
  | @step text next notification changes others tells made session ih =>
      have keptNext : (server.after notification).document? uri = some ⟨next⟩ := by
        rw [server.document?_after_changed tells kept, agreed,
          foldl_changed_of_editorChanges resolved made]
      have keptLater := ih (by rw [Server.encoding_after, agreed]) keptNext
      simp only [List.map_cons, Server.documentAfterEach, keptNext, keptLater]

end Sessions

theorem sessionsAgree_of_resolved
    {denotes : PositionEncoding → Position → Text → Text → Prop}
    (resolved : ∀ encoding position text before, denotes encoding position text before →
      Document.offsetOf ⟨text⟩ encoding position = before.byteLen) :
    SessionsAgree denotes := by
  intro server opening uri languageId text session tells accepted held
  have kept := server.document?_after_opened tells accepted
  refine ⟨kept, documentAfterEach_of_editorSession (resolved server.encoding) held ?_ kept⟩
  exact server.encoding_after opening

/-! ## Sessions that stay together -/

/-- An editor that opens a file and makes one insertion or deletion in it. -/
theorem editorSession_of_change {denotes : Position → Text → Text → Prop} {text next : Text}
    {change : ContentChange} (made : EditorChange denotes text change next) :
    EditorSession denotes batchFile.uri text [(.changing batchFile [change], next)] :=
  .step (Notification.event?_changing batchFile [change]) (.step made (.done next)) (.done next)

/-- Server and editor have the same text throughout every session in which each range of a change
ends before the first break that only the server knows, and its columns fit. A position leads to
the place that the editor means exactly when it lies before that break, and the two count the same
lines in exactly the texts without one. -/
theorem sessionsAgree_before_extraBreaks :
    SessionsAgree (fun encoding position text before =>
      position.Denotes encoding text before ∧ position.ColumnFits encoding text ∧
        ∀ c ∈ before, Text.isExtraBreak c = false) ∧
    (∀ (encoding : PositionEncoding) (position : Position) (text before : Text),
      position.Denotes encoding text before → position.ColumnFits encoding text →
      (Document.offsetOf ⟨text⟩ encoding position = before.byteLen ↔
        ∀ c ∈ before, Text.isExtraBreak c = false)) ∧
    (∀ document : Document, document.lines = document.text.protocolLines ↔
      ∀ c ∈ document.text, Text.isExtraBreak c = false) := by
  refine ⟨?_, ?_, ?_⟩
  · apply sessionsAgree_of_resolved
    rintro encoding position text before ⟨denotes, fits, plain⟩
    exact offsetOf_eq_of_denotes denotes fits plain
  · intro encoding position text before denotes fits
    exact offsetOf_eq_iff_of_denotes denotes fits
  · intro document
    exact Text.lines_eq_protocolLines_iff document.text

/-- An editor that joins the two lines of a file, the first of which has a letter of two bytes. -/
theorem sessionsAgree_joining_lines :
    let server := Server.start {} ⟨fun _ => none, []⟩ .utf16
    let opening := Notification.opening batchFile Language.id ['é', '\r', '\n', 'b']
    let joining : ContentChange := ⟨some ⟨⟨0, 1⟩, ⟨1, 0⟩⟩, ['-']⟩
    (server.after opening).documentAfterEach batchFile.uri [.changing batchFile [joining]] =
      [some ⟨['é', '-', 'b']⟩] := by
  intro server opening joining
  have start : Position.Denotes ⟨0, 1⟩ .utf16 ['é', '\r', '\n', 'b'] ['é'] :=
    ⟨[], ['é'], [], ['\r', '\n'], [⟨['b'], []⟩], by decide, rfl, rfl, by decide⟩
  have stop : Position.Denotes ⟨1, 0⟩ .utf16 ['é', '\r', '\n', 'b'] ['é', '\r', '\n'] :=
    ⟨[⟨['é'], ['\r', '\n']⟩], [], ['b'], [], [], by decide, rfl, rfl, by decide⟩
  have joins : EditorChange (fun position text before => position.Denotes .utf16 text before ∧
      position.ColumnFits .utf16 text ∧ ∀ c ∈ before, Text.isExtraBreak c = false)
      (['é'] ++ ['\r', '\n'] ++ ['b']) joining (['é'] ++ ['-'] ++ ['b']) :=
    .ranged ['-'] ⟨start, .inl (by decide), by simp [Text.isExtraBreak]⟩
      ⟨stop, .inl (by decide), by simp [Text.isExtraBreak]⟩
  have opens := Notification.event?_opening batchFile Language.id ['é', '\r', '\n', 'b']
  exact (sessionsAgree_before_extraBreaks.1 server opening _ _ _ _ opens
    isBatchDocument_batchFile (editorSession_of_change joins)).2

/-! ## Sessions that drift apart -/

/-- If server and editor have the same text after every session, the server makes each change as
the editor does. -/
theorem changed_of_sessionsAgree {denotes : PositionEncoding → Position → Text → Text → Prop}
    (agree : SessionsAgree denotes) (encoding : PositionEncoding) {text next : Text}
    {change : ContentChange} (made : EditorChange (denotes encoding) text change next) :
    Server.changed encoding ⟨text⟩ change = ⟨next⟩ := by
  let server := Server.start {} ⟨fun _ => none, []⟩ encoding
  have opens := Notification.event?_opening batchFile Language.id text
  rcases agree server _ _ _ _ _ opens isBatchDocument_batchFile (editorSession_of_change made) with
    ⟨kept, keptEach⟩
  have keptNext := Server.document?_after_changed _
    (Notification.event?_changing batchFile [change]) kept
  simp only [List.map_cons, List.map_nil, Server.documentAfterEach, keptNext, List.cons.injEq,
    Option.some.injEq, and_true] at keptEach
  rw [Server.encoding_after] at keptEach
  exact keptEach

/-- An insertion at the greatest column goes to the end of the line. -/
theorem changed_at_greatest_column (encoding : PositionEncoding) {line : Text}
    (plain : ∀ c ∈ line, Unicode.isLineBreak c = false) (new : Text) :
    Server.changed encoding ⟨line⟩ ⟨some ⟨⟨0, 0xFFFFFFFF⟩, ⟨0, 0xFFFFFFFF⟩⟩, new⟩ =
      ⟨line ++ new⟩ := by
  have lines : Document.lines ⟨line⟩ = [] ++ ⟨line, []⟩ :: [] := Text.linesBy_of_plain rfl plain
  have found : Document.offsetOf ⟨line⟩ encoding ⟨0, 0xFFFFFFFF⟩ = line.byteLen := by
    have isLine : 0 < Document.lineCount ⟨line⟩ := by
      rw [Document.lineCount_of_lines lines]
      omega
    rw [Document.offsetOf, UInt32.toNat_zero, if_pos isLine]
    have start := Document.lineStart_of_lines lines
    have content := Document.line_of_lines lines
    simp only [List.length_nil, Line.joined_nil, Text.byteLen_nil] at start content
    rw [start, content, encoding.byteOfColumn_greatest, Nat.zero_add]
  have atEnd := Document.replace_cut line [] [] new
  simp only [List.append_nil] at atEnd
  simp only [Server.changed, Document.byteRangeOf, found, Nat.max_self, atEnd]

/-- An editor that inserts before the last of 2^32 equal letters. -/
theorem editorChange_in_long_line {count : Nat} (greatest : count = 0xFFFFFFFF) :
    EditorChange (fun position text before => position.Denotes .utf32 text before ∧
        ∀ c ∈ before, Text.isExtraBreak c = false)
      (List.replicate count 'a' ++ [] ++ ['a'])
      ⟨some ⟨⟨0, 0xFFFFFFFF⟩, ⟨0, 0xFFFFFFFF⟩⟩, ['X']⟩
      (List.replicate count 'a' ++ ['X'] ++ ['a']) := by
  have letters : ∀ c ∈ List.replicate count 'a', c = 'a' := fun c isIn =>
    List.eq_of_mem_replicate isIn
  have plain : ∀ c ∈ List.replicate count 'a' ++ ['a'], Text.isProtocolBreak c = false := by
    intro c isIn
    rcases List.mem_append.mp isIn with isIn | isIn
    · rw [letters c isIn]
      rfl
    · rw [List.mem_singleton.mp isIn]
      rfl
  have units : PositionEncoding.unitCount .utf32 (List.replicate count 'a') = count := by
    rw [PositionEncoding.unitCount_replicate]
    exact Nat.mul_one count
  have denotes : Position.Denotes ⟨0, 0xFFFFFFFF⟩ .utf32 (List.replicate count 'a' ++ ['a'])
      (List.replicate count 'a') :=
    ⟨[], List.replicate count 'a', ['a'], [], [], Text.linesBy_of_plain rfl plain, rfl, rfl,
      by rw [units, greatest]; rfl⟩
  have noExtra : ∀ c ∈ List.replicate count 'a', Text.isExtraBreak c = false := by
    intro c isIn
    rw [letters c isIn]
    rfl
  refine .ranged ['X'] ⟨?_, noExtra⟩ ⟨?_, ?_⟩
  · simpa using denotes
  · simpa using denotes
  · simpa using noExtra

/-- Not every session keeps server and editor in agreement: a vertical tab drives them apart, and
in a line of 2^32 letters so does the greatest column. A vertical tab also makes one line of the
editor two of the server. -/
theorem not_sessionsAgree :
    ¬SessionsAgree (fun encoding position text before =>
      position.Denotes encoding text before) ∧
    ¬SessionsAgree (fun encoding position text before =>
      position.Denotes encoding text before ∧ ∀ c ∈ before, Text.isExtraBreak c = false) ∧
    ¬∀ document : Document, document.lines = document.text.protocolLines := by
  refine ⟨?_, ?_, ?_⟩
  · intro agree
    have start : Position.Denotes ⟨0, 2⟩ .utf16 ['a', '\x0B', 'b'] ['a', '\x0B'] :=
      ⟨[], ['a', '\x0B'], ['b'], [], [], by decide, rfl, rfl, by decide⟩
    have stop : Position.Denotes ⟨0, 3⟩ .utf16 ['a', '\x0B', 'b'] ['a', '\x0B', 'b'] :=
      ⟨[], ['a', '\x0B', 'b'], [], [], [], by decide, rfl, rfl, by decide⟩
    have replaces : EditorChange (fun position text before => position.Denotes .utf16 text before)
        (['a', '\x0B'] ++ ['b'] ++ []) ⟨some ⟨⟨0, 2⟩, ⟨0, 3⟩⟩, ['X']⟩
        (['a', '\x0B'] ++ ['X'] ++ []) :=
      .ranged ['X'] start stop
    exact absurd (changed_of_sessionsAgree agree .utf16 replaces) (by decide)
  · intro agree
    -- The number of letters stays opaque, so that the line is never spelled out.
    obtain ⟨count, greatest⟩ : ∃ count : Nat, count = 0xFFFFFFFF := ⟨_, rfl⟩
    have same := changed_of_sessionsAgree agree .utf32 (editorChange_in_long_line greatest)
    have plain : ∀ c ∈ List.replicate count 'a' ++ [] ++ ['a'], Unicode.isLineBreak c = false := by
      intro c isIn
      have isLetter : c = 'a' := by
        simp only [List.append_nil, List.mem_append, List.mem_singleton] at isIn
        exact isIn.elim List.eq_of_mem_replicate id
      rw [isLetter]
      rfl
    rw [changed_at_greatest_column .utf32 plain] at same
    have ends := congrArg (fun document => document.text.getLast?) same
    simp at ends
  · intro same
    exact absurd (same ⟨['a', '\x0B', 'b']⟩) (by decide)

end BatchLens
