import BatchLens.Proofs.Batch.OnLine
import BatchLens.Proofs.Offset
import BatchLens.Proofs.Protocol.History
import BatchLens.Proofs.Protocol.SemanticToken
import BatchLens.Proofs.Protocol.Spelling
import BatchLens.Proofs.Text.Breaks

/-!
# Line endings

An answer does not depend on how the lines of a document end. A position names a line and a column
in what that line says, so that it leads to places with the same surroundings in all documents that
say the same (`exists_isAt_offsetOf`). What the engines find there they find in the line alone, and
the positions of their results are again determined by its number and what it says
(`positionRangeOf_shift`). Servers that keep such documents answer alike (`Alike.respond_eq`).
-/

namespace BatchLens

/-! ## Lines joined with an ending -/

namespace Text

theorem linesBy_append_of_isEnding {ending behind : Text}
    (isEnding : IsEnding isProtocolBreak ending) (whole : ¬SplitsBreak ending behind) :
    linesBy Unicode.isLineBreak (ending ++ behind) =
      ⟨[], ending⟩ :: linesBy Unicode.isLineBreak behind := by
  rcases isEnding with rfl | ⟨c, ends, rfl⟩
  · simp [linesBy]
  · exact linesBy_cons_of_isBreak (by simp [isLineBreak_eq, ends]) whole

/-- A text without protocol breaks does not begin with the second half of one. -/
theorem not_splitsBreak_of_plain {before behind : Text}
    (plain : ∀ c ∈ before, isProtocolBreak c = false) : ¬SplitsBreak before behind := by
  rintro ⟨isReturn, -⟩
  have inside := plain '\r' (List.mem_of_getLast? isReturn)
  exact absurd inside (by decide)

theorem not_splitsBreak_intercalate {ending line : Text} {others : List Text}
    (isEnding : IsEnding isProtocolBreak ending) (plain : ∀ c ∈ line, isProtocolBreak c = false) :
    ¬SplitsBreak ending (ending.intercalate (line :: others)) := by
  rintro ⟨isReturn, isFeed⟩
  cases line with
  | cons c rest =>
      have first : (ending.intercalate ((c :: rest) :: others)).head? = some c := by
        cases others <;> simp
      rw [first, Option.some.injEq] at isFeed
      subst isFeed
      exact absurd (plain '\n' (List.mem_cons_self ..)) (by decide)
  | nil =>
      cases others with
      | nil => simp at isFeed
      | cons next more =>
          -- Behind an empty line the same ending follows once more, so that the two of them could
          -- only make a longer break if a return were a feed.
          rcases isEnding with rfl | ⟨c, _, rfl⟩
          · simp at isReturn
          · simp only [List.getLast?_singleton, Option.some.injEq] at isReturn
            simp [isReturn] at isFeed

end Text

namespace Document

/-- What the lines of a document say. -/
def contents (document : Document) : List Text := document.lines.map Line.content

theorem contents_append {line ending behind : Text}
    (plain : ∀ c ∈ line, Text.isProtocolBreak c = false)
    (isEnding : Text.IsEnding Text.isProtocolBreak ending)
    (whole : ¬Text.SplitsBreak ending behind) :
    contents ⟨line ++ ending ++ behind⟩ = contents ⟨line⟩ ++ contents ⟨behind⟩ := by
  rcases Text.exists_last_line Unicode.isLineBreak line with ⟨earlier, column, lines⟩
  have all := Text.linesBy_append (Text.not_splitsBreak_of_plain plain) lines
    (Text.linesBy_append_of_isEnding isEnding whole)
  simp only [contents, Document.lines, Text.lines, List.append_assoc, all, lines]
  simp

/-- Lines say the same, whatever ending joins them. -/
theorem contents_intercalate {lines : List Text}
    (plain : ∀ line ∈ lines, ∀ c ∈ line, Text.isProtocolBreak c = false) {ending other : Text}
    (isEnding : Text.IsEnding Text.isProtocolBreak ending)
    (isOther : Text.IsEnding Text.isProtocolBreak other) :
    contents ⟨ending.intercalate lines⟩ = contents ⟨other.intercalate lines⟩ := by
  induction lines with
  | nil => rfl
  | cons line others ih =>
      rw [List.forall_mem_cons] at plain
      cases others with
      | nil => simp
      | cons next more =>
          have nextPlain := plain.2 next (List.mem_cons_self ..)
          rw [List.intercalate_cons_cons, List.intercalate_cons_cons,
            contents_append plain.1 isEnding (Text.not_splitsBreak_intercalate isEnding nextPlain),
            contents_append plain.1 isOther (Text.not_splitsBreak_intercalate isOther nextPlain),
            ih plain.2]

/-! ## Documents that say the same -/

section Contents

variable {first second : Document}

theorem lineCount_eq_length_contents (document : Document) :
    document.lineCount = document.contents.length := by
  rw [lineCount, contents, List.length_map]

theorem line_eq_contents (document : Document) (index : Nat) :
    document.line index = (document.contents[index]?).getD [] := by
  rw [line, contents, List.getElem?_map]
  cases document.lines[index]? <;> rfl

/-- A line of one document has its counterpart in the other. -/
theorem exists_lines_of_contents (same : first.contents = second.contents)
    {earlier later : List Line} {line : Line} (lines : first.lines = earlier ++ line :: later) :
    ∃ otherEarlier otherLine otherLater, second.lines = otherEarlier ++ otherLine :: otherLater ∧
      otherEarlier.map Line.content = earlier.map Line.content ∧
      otherLine.content = line.content ∧
      otherLater.map Line.content = later.map Line.content := by
  rw [contents, lines, List.map_append, List.map_cons] at same
  rcases List.map_eq_append_iff.mp same.symm with
    ⟨otherEarlier, others, secondLines, sameEarlier, sameOthers⟩
  rcases List.map_eq_cons_iff.mp sameOthers with ⟨otherLine, otherLater, rfl, sameLine, sameLater⟩
  exact ⟨otherEarlier, otherLine, otherLater, secondLines, sameEarlier, sameLine, sameLater⟩

end Contents

/-- A place by what is said around it: by the lines in front, on both sides of it in its own line,
and by the lines behind. -/
def IsAt (document : Document) (offset : Nat) (earlier : List Text) (column rest : Text)
    (later : List Text) : Prop :=
  ∃ earlierLines ending laterLines,
    document.Located offset earlierLines column rest ending laterLines ∧
      earlierLines.map Line.content = earlier ∧ laterLines.map Line.content = later

/-- A column that is found in an existing line leads to a place in it. -/
theorem located_offsetOf {document : Document} {encoding : PositionEncoding} {position : Position}
    {earlier later : List Line} {column rest ending : Text}
    (lines : document.lines = earlier ++ ⟨column ++ rest, ending⟩ :: later)
    (index : position.line.toNat = earlier.length)
    (found : encoding.byteOfColumn (column ++ rest) position.character = column.byteLen) :
    document.Located (document.offsetOf encoding position) earlier column rest ending later := by
  have isLine : earlier.length < document.lineCount := by
    rw [lineCount_of_lines lines]
    omega
  refine ⟨lines, ?_⟩
  rw [offsetOf, index, if_pos isLine, lineStart_of_lines lines, line_of_lines lines, found,
    Text.byteLen_append]

theorem located_length {document : Document} {earlier : List Line} {column : Text}
    (lines : document.lines = earlier ++ [⟨column, []⟩]) :
    document.Located document.length earlier column [] [] [] := by
  refine ⟨by simpa using lines, ?_⟩
  rw [length, ← joined_lines document, lines]
  simp

/-- A position leads to the same surroundings in documents that say the same. -/
theorem exists_isAt_offsetOf {first second : Document} (same : first.contents = second.contents)
    (encoding : PositionEncoding) (position : Position) :
    ∃ earlier column rest later,
      first.IsAt (first.offsetOf encoding position) earlier column rest later ∧
        second.IsAt (second.offsetOf encoding position) earlier column rest later := by
  have sameCount : first.lineCount = second.lineCount := by
    rw [lineCount_eq_length_contents, lineCount_eq_length_contents, same]
  by_cases isLine : position.line.toNat < first.lineCount
  · rcases Line.exists_split isLine with ⟨earlier, ⟨content, ending⟩, later, lines, index⟩
    rcases encoding.exists_cut_byteOfColumn position.character content with
      ⟨column, rest, rfl, found⟩
    rcases exists_lines_of_contents same lines with
      ⟨otherEarlier, ⟨content, otherEnding⟩, otherLater, otherLines, sameEarlier, rfl, sameLater⟩
    have sameIndex : otherEarlier.length = earlier.length := by
      simpa using congrArg List.length sameEarlier
    exact ⟨_, column, rest, _, ⟨_, _, _, located_offsetOf lines index.symm found, rfl, rfl⟩,
      ⟨_, _, _, located_offsetOf otherLines (by rw [sameIndex, index]) found, sameEarlier,
        sameLater⟩⟩
  · have isLineToo : ¬position.line.toNat < second.lineCount := by rwa [← sameCount]
    rw [offsetOf, if_neg isLine, offsetOf, if_neg isLineToo]
    rcases Text.exists_last_line Unicode.isLineBreak first.text with ⟨earlier, column, lines⟩
    rcases Text.exists_last_line Unicode.isLineBreak second.text with
      ⟨otherEarlier, otherColumn, otherLines⟩
    rw [contents, contents, Document.lines, Document.lines, Text.lines, Text.lines, lines,
      otherLines, List.map_append, List.map_append] at same
    rcases List.append_inj' same rfl with ⟨sameEarlier, sameColumn⟩
    simp only [List.map_cons, List.map_nil, List.cons.injEq, and_true] at sameColumn
    subst sameColumn
    exact ⟨_, column, [], [], ⟨_, _, _, located_length lines, rfl, rfl⟩,
      ⟨_, _, _, located_length otherLines, sameEarlier.symm, rfl⟩⟩

end Document

/-- The positions of a part of a line with a number. -/
def PositionRange.ofPart (encoding : PositionEncoding) (index : Nat) (line : Text)
    (range : ByteRange) : PositionRange :=
  let position (column : Nat) : Position :=
    ⟨UInt32.ofNat index, encoding.columnUnits (Text.takeBytes column line)⟩
  ⟨position range.start, position range.stop⟩

/-- The items of a completion set as they are offered on a line with a number. -/
def OfferedItem.ofPart (encoding : PositionEncoding) (index : Nat) (line : Text)
    (set : CompletionSet) : List OfferedItem :=
  set.items.zipIdx.map fun (item, number) =>
    ⟨item, BatchLens.sortText number,
      ⟨PositionRange.ofPart encoding index line set.replaced, item.insertText⟩⟩

namespace Document

section Located

variable {document : Document} {offset : Nat} {earlier later : List Line}
  {column rest ending : Text}

theorem Located.positionRangeOf_shift
    (located : document.Located offset earlier column rest ending later)
    (encoding : PositionEncoding) {range : ByteRange} (part : range.IsPart (column ++ rest)) :
    document.positionRangeOf encoding (range.shift (document.lineStart earlier.length)) =
      PositionRange.ofPart encoding earlier.length (column ++ rest) range := by
  have isPosition {before behind : Text} (cut : column ++ rest = before ++ behind) :
      document.positionOf encoding (document.lineStart earlier.length + before.byteLen) =
        ⟨UInt32.ofNat earlier.length,
          encoding.columnUnits (Text.takeBytes before.byteLen (column ++ rest))⟩ := by
    have lines := located.lines
    rw [cut] at lines
    have atCut : document.Located (document.lineStart earlier.length + before.byteLen) earlier
        before behind ending later :=
      ⟨lines, by rw [located.lineStart_eq, Text.byteLen_append]⟩
    rw [atCut.positionOf_eq, cut, Text.takeBytes_cut]
  rcases part with ⟨before, middle, behind, content, rfl⟩
  have atStart := isPosition (content.trans (List.append_assoc before middle behind))
  rw [positionRangeOf, ByteRange.shift, atStart, isPosition content]
  rfl

theorem Located.eq_zero_iff (located : document.Located offset earlier column rest ending later) :
    offset = 0 ↔ earlier = [] ∧ column = [] := by
  constructor
  · intro isZero
    have nothing := Text.byteLen_eq_zero_iff.mp (located.offset_eq.symm.trans isZero)
    rcases List.append_eq_nil_iff.mp nothing with ⟨noText, noColumn⟩
    cases earlier with
    | nil => exact ⟨rfl, noColumn⟩
    | cons line others =>
        have ends := (areLines_of_lines located.lines).of_cons (by simp)
        have noEnding : line.ending = [] := by
          rw [Line.joined_cons, List.append_eq_nil_iff, List.append_eq_nil_iff] at noText
          exact noText.2.1
        exact absurd noEnding ends.1.ne_nil
  · rintro ⟨rfl, rfl⟩
    rw [located.offset_eq]
    rfl

end Located

section IsAt

variable {document : Document} {encoding : PositionEncoding} {environment : Environment}
  {offset : Nat} {earlier later : List Text} {column rest : Text}

/-- What is said about the surroundings of a place decides a hover answer. -/
theorem IsAt.hoverAnswer_eq {settings : HoverSettings}
    (isAt : document.IsAt offset earlier column rest later) :
    (document.hover? environment settings offset).map (document.hoverAnswer encoding) =
      (Document.hover? ⟨column ++ rest⟩ environment settings column.byteLen).map fun hover =>
        .hover hover.contents
          (PositionRange.ofPart encoding earlier.length (column ++ rest) hover.range) := by
  rcases isAt with ⟨earlierLines, ending, laterLines, located, rfl, rfl⟩
  rw [hover?_located located, Option.map_map]
  apply Option.map_congr
  intro hover answered
  rw [List.length_map, ← located.positionRangeOf_shift encoding (located.isPart_hover? answered)]
  rfl

/-- What is said about the surroundings of a place decides a completion answer. -/
theorem IsAt.completionAnswer_eq {settings : CompletionSettings}
    (isAt : document.IsAt offset earlier column rest later) :
    (document.complete? environment settings offset).map (document.completionAnswer encoding) =
      if earlier = [] ∧ column = [] then none
      else
        (Completion.onLine? settings
          (Completion.variablesBeside environment settings earlier (column ++ rest) later)
          (column ++ rest) column.byteLen).map fun set =>
          .completion (OfferedItem.ofPart encoding earlier.length (column ++ rest) set) := by
  rcases isAt with ⟨earlierLines, ending, laterLines, located, rfl, rfl⟩
  simp only [List.map_eq_nil_iff, ← located.eq_zero_iff]
  split
  next atStart =>
    have clamped := located.clamp_eq
    rw [atStart] at clamped
    simp [complete?, atStart, clamped]
  next behindStart =>
    rw [complete?_located located behindStart, Option.map_map]
    apply Option.map_congr
    intro set answered
    have range := located.positionRangeOf_shift encoding (Completion.isPart_of_onLine? answered)
    simp only [Function.comp_apply, completionAnswer, offeredItems, CompletionSet.shift, range,
      OfferedItem.ofPart, List.length_map]

/-- What is said about the surroundings of a place decides which pair is closed. -/
theorem IsAt.insertionAnswer_eq {typed : Char}
    (isAt : document.IsAt offset earlier column rest later) :
    ((Pairing.insertion? document offset typed).map fun (place, close) =>
        Answer.edits [⟨document.positionRangeOf encoding ⟨place, place⟩, [close]⟩]) =
      (Pairing.insertion? ⟨column ++ rest⟩ column.byteLen typed).map fun (place, close) =>
        Answer.edits [⟨PositionRange.ofPart encoding earlier.length (column ++ rest)
          ⟨place, place⟩, [close]⟩] := by
  rcases isAt with ⟨earlierLines, ending, laterLines, located, rfl, rfl⟩
  rw [insertion?_located located, Option.map_map]
  apply Option.map_congr
  rintro ⟨place, close⟩ answered
  have isColumn : place = column.byteLen := by
    rw [insertion?_offset answered, located.alone.clamp_eq]
  have part : ByteRange.IsPart ⟨place, place⟩ (column ++ rest) :=
    ⟨column, [], rest, by simp, by simp [isColumn]⟩
  have range := located.positionRangeOf_shift encoding part
  rw [ByteRange.shift] at range
  simp only [Function.comp_apply, range, List.length_map]

end IsAt

theorem semanticTokens_eq_of_contents {first second : Document}
    (same : first.contents = second.contents) (encoding : PositionEncoding) (start stop : Nat) :
    first.semanticTokens encoding start stop = second.semanticTokens encoding start stop := by
  simp only [semanticTokens, SemanticToken.ofLines,
    SemanticToken.flatMap_numbered_lines _ start stop (SemanticToken.ofLine encoding),
    line_eq_contents, lineCount_eq_length_contents, same]

end Document

/-! ## Servers that keep the same contents -/

namespace Server

/-- Whether two servers differ at most in the line endings of their documents. -/
structure Alike (server other : Server) : Prop where
  settings : server.settings = other.settings
  environment : server.environment = other.environment
  encoding : server.encoding = other.encoding
  contents : ∀ uri,
    (server.document? uri).map Document.contents = (other.document? uri).map Document.contents

namespace Alike

variable {server other : Server}

/-- What is asked about a document is answered alike, if documents that say the same have the same
answer. -/
theorem bind_document?_eq (alike : server.Alike other) (uri : Uri)
    {ask : Document → Option Answer}
    (sameAnswer : ∀ first second : Document, first.contents = second.contents →
      ask first = ask second) :
    (server.document? uri).bind ask = (other.document? uri).bind ask := by
  have same := alike.contents uri
  cases kept : server.document? uri with
  | none =>
      rw [kept, Option.map_none, eq_comm, Option.map_eq_none_iff] at same
      rw [same]
  | some first =>
      rw [kept, Option.map_some, eq_comm, Option.map_eq_some_iff] at same
      rcases same with ⟨second, keptToo, contents⟩
      rw [keptToo]
      exact sameAnswer first second contents.symm

theorem hover?_eq (alike : server.Alike other) (uri : Uri) (position : Position) :
    server.hover? uri position = other.hover? uri position := by
  simp only [hover?, alike.settings, alike.environment, alike.encoding]
  apply alike.bind_document?_eq
  intro first second same
  rcases Document.exists_isAt_offsetOf same other.encoding position with
    ⟨earlier, column, rest, later, isAt, isAtToo⟩
  simpa [Option.map_eq_bind, Function.comp_def] using
    isAt.hoverAnswer_eq.trans isAtToo.hoverAnswer_eq.symm

theorem completion?_eq (alike : server.Alike other) (uri : Uri) (position : Position) :
    server.completion? uri position = other.completion? uri position := by
  simp only [completion?, alike.settings, alike.environment, alike.encoding]
  apply alike.bind_document?_eq
  intro first second same
  rcases Document.exists_isAt_offsetOf same other.encoding position with
    ⟨earlier, column, rest, later, isAt, isAtToo⟩
  simpa [Option.map_eq_bind, Function.comp_def] using
    isAt.completionAnswer_eq.trans isAtToo.completionAnswer_eq.symm

theorem tokens?_eq (alike : server.Alike other) (uri : Uri) :
    server.tokens? uri = other.tokens? uri := by
  simp only [tokens?, alike.encoding]
  apply alike.bind_document?_eq
  intro first second same
  rw [Document.semanticTokens_eq_of_contents same, Document.lineCount_eq_length_contents, same,
    Document.lineCount_eq_length_contents]

theorem tokensOfRange?_eq (alike : server.Alike other) (uri : Uri) (range : PositionRange) :
    server.tokensOfRange? uri range = other.tokensOfRange? uri range := by
  simp only [tokensOfRange?, alike.encoding]
  apply alike.bind_document?_eq
  intro first second same
  rw [Document.semanticTokens_eq_of_contents same]

theorem pairing?_eq (alike : server.Alike other) (uri : Uri) (position : Position)
    (typed : Text) : server.pairing? uri position typed = other.pairing? uri position typed := by
  simp only [pairing?, alike.settings, alike.encoding]
  split
  next => rfl
  next =>
    apply alike.bind_document?_eq
    intro first second same
    cases typed with
    | nil => rfl
    | cons c _ =>
        rcases Document.exists_isAt_offsetOf same other.encoding position with
          ⟨earlier, column, rest, later, isAt, isAtToo⟩
        simpa [Option.map_eq_bind, Function.comp_def] using
          isAt.insertionAnswer_eq.trans isAtToo.insertionAnswer_eq.symm

theorem respond_eq (alike : server.Alike other) (method : Text) (params : Json) :
    server.respond method params = other.respond method params := by
  have sameAnswer : server.answer = other.answer := by
    funext query
    cases query with
    | hover uri position => simp only [answer, alike.hover?_eq]
    | completion uri position => simp only [answer, alike.completion?_eq]
    | tokens uri => simp only [answer, alike.tokens?_eq]
    | tokensOfRange uri range => simp only [answer, alike.tokensOfRange?_eq]
    | pairing uri position typed => simp only [answer, alike.pairing?_eq]
  rw [respond, respond, sameAnswer]

end Alike

/-- A document may be opened with one ending or with another. -/
theorem alike_opened (server : Server) (uri : Uri) (languageId : Text) {text other : Text}
    (same : Document.contents ⟨text⟩ = Document.contents ⟨other⟩) :
    Alike (server.observe (.opened uri languageId text))
      (server.observe (.opened uri languageId other)) := by
  refine ⟨rfl, rfl, rfl, ?_⟩
  intro asked
  rw [document?_observe, document?_observe]
  by_cases named : uri = asked
  · subst named
    by_cases accepted : isBatchDocument uri languageId = true
    · simp [Event.uri, Event.storedAfter, accepted, same]
    · simp [Event.uri, Event.storedAfter, accepted]
  · simp [Event.uri, named]

/-- A request about a document has the same response, whether its lines are joined by line feeds, by
pairs of carriage return and line feed, or by carriage returns. -/
theorem respond_intercalate (server : Server) (uri : Uri) (languageId : Text) {lines : List Text}
    (plain : ∀ line ∈ lines, ∀ c ∈ line, Text.isProtocolBreak c = false) (method : Text)
    (params : Json) :
    let respondWith (ending : Text) :=
      (server.observe (.opened uri languageId (ending.intercalate lines))).respond method params
    respondWith ['\r', '\n'] = respondWith ['\n'] ∧ respondWith ['\r'] = respondWith ['\n'] := by
  have sameResponse {ending : Text} (isEnding : Text.IsEnding Text.isProtocolBreak ending) :=
    (alike_opened server uri languageId (Document.contents_intercalate plain isEnding
      (.inr ⟨'\n', rfl, rfl⟩))).respond_eq method params
  exact ⟨sameResponse (.inl rfl), sameResponse (.inr ⟨'\r', rfl, rfl⟩)⟩

/-- A keyword on the second line is found there behind each of the three endings. -/
theorem respond_intercalate_on_second_line :
    let server := Server.start {} ⟨fun _ => none, []⟩ .utf16
    let lines := ["rem é".toList, "  goto end".toList]
    let query := Query.hover batchFile.uri ⟨1, 3⟩
    let respondWith (ending : Text) :=
      (server.observe (.opened batchFile.uri Language.id (ending.intercalate lines))).respond
        query.method (query.params batchFile)
    (∀ line ∈ lines, ∀ c ∈ line, Text.isProtocolBreak c = false) ∧
      respondWith ['\n'] =
        .ok (.hover
          ["Directs the Windows command interpreter to a labeled line in a batch program.".toList]
          ⟨⟨1, 2⟩, ⟨1, 6⟩⟩) ∧
      respondWith ['\r', '\n'] = respondWith ['\n'] ∧ respondWith ['\r'] = respondWith ['\n'] := by
  intro server lines query respondWith
  have plain : ∀ line ∈ lines, ∀ c ∈ line, Text.isProtocolBreak c = false := by
    simp [lines, Text.isProtocolBreak]
  have found : respondWith ['\n'] =
      .ok (.hover
        ["Directs the Windows command interpreter to a labeled line in a batch program.".toList]
        ⟨⟨1, 2⟩, ⟨1, 6⟩⟩) := by
    decide +kernel
  exact ⟨plain, found, respond_intercalate server batchFile.uri Language.id plain _ _⟩

end Server

end BatchLens
