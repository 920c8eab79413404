import BatchLens.Proofs.Batch.ClosingPair
import BatchLens.Proofs.Protocol.LineEnding
import BatchLens.Proofs.Protocol.LongDocument

/-!
# A pair is closed once

The answer to a typed character can be made an edit, and the question be asked again. Whatever
position it is asked at, the position now leads to where it led before or right behind the new
character (`LeadsTo.replace`). In front of the new character no pair is closed, because it is
nothing that may follow one, and behind it none is, because it is another character or makes the
number of its kind even. So the second answer is empty (`pair_closed_once`).

Only the position of the answer has to be told in 32 bits for that, as it is unless the position of
the question leads over more than 2^32 units of its line without naming a column (`TellsColumn`).
-/

namespace BatchLens

namespace Document

/-- Where a position leads: to a column of its line, or to the end of the last line if there is no
line of its number. -/
inductive LeadsTo (document : Document) (encoding : PositionEncoding) (position : Position)
    (earlier : List Line) (column rest ending : Text) (later : List Line) : Prop
  | inLine (lines : document.lines = earlier ++ ⟨column ++ rest, ending⟩ :: later)
      (number : position.line.toNat = earlier.length)
      (found : encoding.byteOfColumn (column ++ rest) position.character = column.byteLen)
  | behindLines (lines : document.lines = earlier ++ [⟨column, []⟩])
      (noLine : earlier.length < position.line.toNat)
      (atEnd : rest = [] ∧ ending = [] ∧ later = [])

/-- Whether a position leads over no more units of its line than can be counted in 32 bits: it names
a column of an existing line, or the line to which it leads has fewer units. The greatest column
names none, but the end of the line. -/
def TellsColumn (document : Document) (encoding : PositionEncoding) (position : Position) : Prop :=
  position.line.toNat < document.lineCount ∧ position.character.toNat < 0xFFFFFFFF ∨
    encoding.unitCount
      (document.line (document.lineOfOffset (document.offsetOf encoding position))) < 0x100000000

variable {document : Document} {encoding : PositionEncoding} {position : Position}
  {earlier later : List Line} {column rest ending : Text}

theorem exists_leadsTo_of_lines {line : Line} (lines : document.lines = earlier ++ line :: later)
    (number : position.line.toNat = earlier.length) :
    ∃ column rest, line.content = column ++ rest ∧
      document.LeadsTo encoding position earlier column rest line.ending later := by
  rcases encoding.exists_cut_byteOfColumn position.character line.content with
    ⟨column, rest, content, found⟩
  rw [content] at found
  refine ⟨column, rest, content, .inLine ?_ number found⟩
  rw [lines, ← content]

theorem exists_leadsTo (document : Document) (encoding : PositionEncoding) (position : Position) :
    ∃ earlier column rest ending later,
      document.LeadsTo encoding position earlier column rest ending later := by
  rcases Nat.lt_or_ge position.line.toNat document.lineCount with isLine | noLine
  · rcases Line.exists_split isLine with ⟨earlier, line, later, lines, number⟩
    rcases exists_leadsTo_of_lines lines number.symm with ⟨column, rest, _, leads⟩
    exact ⟨earlier, column, rest, line.ending, later, leads⟩
  · rcases Text.exists_last_line Unicode.isLineBreak document.text with ⟨earlier, column, lines⟩
    have lines : document.lines = earlier ++ [⟨column, []⟩] := lines
    rw [lineCount_of_lines lines] at noLine
    exact ⟨earlier, column, [], [], [], .behindLines lines noLine ⟨rfl, rfl, rfl⟩⟩

namespace LeadsTo

theorem located (leads : document.LeadsTo encoding position earlier column rest ending later) :
    document.Located (document.offsetOf encoding position) earlier column rest ending later := by
  cases leads with
  | inLine lines number found => exact located_offsetOf lines number found
  | behindLines lines noLine atEnd =>
      rcases atEnd with ⟨rfl, rfl, rfl⟩
      have isOutside : ¬position.line.toNat < document.lineCount := by
        rw [lineCount_of_lines lines, List.length_nil]
        omega
      rw [offsetOf, if_neg isOutside]
      exact located_length lines

theorem length_le (leads : document.LeadsTo encoding position earlier column rest ending later) :
    earlier.length ≤ position.line.toNat := by
  cases leads with
  | inLine _ number => exact Nat.le_of_eq number.symm
  | behindLines _ noLine => exact Nat.le_of_lt noLine

/-- When a character of one unit is inserted where a position leads, the position leads there again,
or behind the new character if nothing or a wider character follows. -/
theorem replace (leads : document.LeadsTo encoding position earlier column rest ending later)
    {new : Char} (narrow : encoding.width new = 1) (plain : Unicode.isLineBreak new = false) :
    let edited := document.replace
      ⟨document.offsetOf encoding position, document.offsetOf encoding position⟩ [new]
    edited.LeadsTo encoding position earlier column (new :: rest) ending later ∨
      edited.LeadsTo encoding position earlier (column ++ [new]) rest ending later ∧
        ∀ c ∈ rest.head?, 1 < encoding.width c := by
  intro edited
  have lines : edited.lines = earlier ++ ⟨column ++ new :: rest, ending⟩ :: later :=
    leads.located.lines_replace (by simpa using plain)
  have linesBehind : edited.lines = earlier ++ ⟨column ++ [new] ++ rest, ending⟩ :: later := by
    rw [lines, List.append_assoc, List.singleton_append]
  cases leads with
  | inLine _ number found =>
      rcases encoding.bytesToColumn_insert narrow found with inFront | ⟨behindNew, wide⟩
      · left
        exact .inLine lines number inFront
      · right
        refine ⟨.inLine linesBehind number ?_, wide⟩
        rw [List.append_assoc, List.singleton_append]
        exact behindNew
  | behindLines _ noLine atEnd =>
      right
      rcases atEnd with ⟨rfl, rfl, rfl⟩
      rw [List.append_nil] at linesBehind
      exact ⟨.behindLines linesBehind noLine ⟨rfl, rfl, rfl⟩, by simp⟩

/-- Where the columns can be told, a position has the same place as the position of that place. -/
theorem offsetOf_positionOf
    (leads : document.LeadsTo encoding position earlier column rest ending later)
    (tells : document.TellsColumn encoding position) :
    document.offsetOf encoding
        (document.positionOf encoding (document.offsetOf encoding position)) =
      document.offsetOf encoding position := by
  have located := leads.located
  have lineSmall := Nat.lt_of_le_of_lt leads.length_le position.line.toNat_lt
  have lineEq : (UInt32.ofNat earlier.length).toNat = earlier.length :=
    UInt32.toNat_ofNat_of_lt' lineSmall
  rcases tells with ⟨isLine, bounded⟩ | small
  · cases leads with
    | inLine lines number found =>
        have counted := encoding.unitCount_le_of_bytesToColumn bounded (Nat.zero_le _) found
        rw [UInt32.toNat_zero, Nat.zero_add] at counted
        have characterEq := encoding.toNat_columnUnits_of_lt column (by omega)
        rw [located.positionOf_eq]
        apply located.offsetOf_eq lineEq characterEq
        intro _
        rw [characterEq]
        omega
    | behindLines lines noLine =>
        rw [lineCount_of_lines lines, List.length_nil] at isLine
        omega
  · rw [located.lineOfOffset_eq, located.line_eq] at small
    exact located.offsetOf_positionOf lineSmall small

end LeadsTo

/-! ## The question asked again -/

theorem width_of_utf8Size {c : Char} (oneByte : c.utf8Size = 1) : encoding.width c = 1 := by
  cases encoding with
  | utf8 => exact oneByte
  | utf16 =>
      have small := Char.utf8Size_eq_one_iff.mp oneByte
      rw [PositionEncoding.width, if_pos]
      have sameValue : c.toNat = c.val.toNat := rfl
      rw [sameValue]
      have bound : c.val.toNat ≤ 127 := small
      omega
  | utf32 => rfl

open Pairing in
/-- Once the closing character stands where a position leads in the line of a pair, no character is
inserted at that position any more. -/
theorem LeadsTo.insertion?_replace {before behind : Text} {typed close : Char}
    (leads : document.LeadsTo encoding position earlier column rest ending later)
    (line : column ++ rest = before ++ [typed] ++ behind) (opens : OpensPair before typed behind)
    (closes : closing? typed = some close) :
    let edited := document.replace
      ⟨document.offsetOf encoding position, document.offsetOf encoding position⟩ [close]
    insertion? edited (edited.offsetOf encoding position) typed = none := by
  intro edited
  have isClosing := of_closing? closes
  apply insertion?_eq_none
  rcases leads.replace (width_of_utf8Size isClosing.oneByte) isClosing.plain with
    inFront | ⟨behindClose, wide⟩
  · rw [inFront.located.opensPairAt_iff]
    rintro ⟨front, _, opensAgain⟩
    exact isClosing.notTrailing (opensAgain.areTrailing close List.mem_cons_self)
  · rw [behindClose.located.opensPairAt_iff]
    rintro ⟨front, columnEq, opensAgain⟩
    obtain ⟨rfl, same⟩ := List.append_inj' columnEq rfl
    obtain rfl : close = typed := List.singleton_inj.mp same
    obtain rfl : rest = [] := by
      cases rest with
      | nil => rfl
      | cons c others =>
          have isWide := wide c rfl
          have oneByte : c.utf8Size = 1 := by
            have isTrailing := opensAgain.areTrailing c List.mem_cons_self
            simp only [List.mem_cons, List.not_mem_nil, or_false] at isTrailing
            rcases isTrailing with rfl | rfl | rfl
            all_goals rfl
          rw [width_of_utf8Size oneByte] at isWide
          exact absurd isWide (Nat.lt_irrefl 1)
    rw [List.append_nil] at line
    subst line
    exact opens.not_opensPair_behind closes behind (fun c isIn => isIn) opensAgain

end Document

namespace Server

open Pairing

variable {server : Server} {uri : Uri} {position : Position} {typed : Text} {edits : List TextEdit}

/-- Edits are the answer to a typed character only. -/
theorem exists_pairing_of_answer {query : Query} (answered : server.answer query = .edits edits) :
    ∃ uri position typed, query = .pairing uri position typed ∧
      server.pairing? uri position typed = some (.edits edits) := by
  have isFound {found : Option Answer} (same : found.getD .nothing = .edits edits) :
      found = some (.edits edits) := by
    cases found with
    | none => exact Answer.noConfusion same
    | some answer => exact congrArg some same
  cases query with
  | hover uri position =>
      have found := isFound answered
      simp only [hover?, Option.bind_eq_bind, Option.bind_eq_some_iff, Option.some.injEq] at found
      rcases found with ⟨_, _, _, _, isHover⟩
      exact Answer.noConfusion isHover
  | completion uri position =>
      have found := isFound answered
      simp only [completion?, Option.bind_eq_bind, Option.bind_eq_some_iff,
        Option.some.injEq] at found
      rcases found with ⟨_, _, _, _, isCompletion⟩
      exact Answer.noConfusion isCompletion
  | tokens uri =>
      have found := isFound answered
      simp only [tokens?, Option.bind_eq_bind, Option.bind_eq_some_iff, Option.some.injEq] at found
      rcases found with ⟨_, _, areTokens⟩
      exact Answer.noConfusion areTokens
  | tokensOfRange uri range =>
      have found := isFound answered
      simp only [tokensOfRange?, Option.bind_eq_bind, Option.bind_eq_some_iff,
        Option.some.injEq] at found
      rcases found with ⟨_, _, areTokens⟩
      exact Answer.noConfusion areTokens
  | pairing uri position typed => exact ⟨uri, position, typed, rfl, isFound answered⟩

theorem exists_pairing_of_respond {method : Text} {params : Json}
    (answered : server.respond method params = .ok (.edits edits)) :
    ∃ uri position typed, Query.ofRequest method params = .ok (.pairing uri position typed) ∧
      server.pairing? uri position typed = some (.edits edits) := by
  cases asks : Query.ofRequest method params with
  | error refused => simp [respond, asks, Except.map] at answered
  | ok query =>
      have isAnswer : server.answer query = .edits edits := by
        simpa [respond, asks, Except.map] using answered
      rcases exists_pairing_of_answer isAnswer with ⟨uri, position, typed, rfl, found⟩
      exact ⟨uri, position, typed, rfl, found⟩

theorem exists_insertion_of_pairing?
    (answered : server.pairing? uri position typed = some (.edits edits)) :
    ∃ document c others place close, server.document? uri = some document ∧ typed = c :: others ∧
      insertion? document (document.offsetOf server.encoding position) c = some (place, close) ∧
      edits = [⟨document.positionRangeOf server.encoding ⟨place, place⟩, [close]⟩] := by
  simp only [pairing?, Option.bind_eq_bind, Option.bind_none, Option.ite_none_left_eq_some,
    Option.bind_eq_some_iff, Option.some.injEq, Answer.edits.injEq] at answered
  rcases answered with ⟨_, document, kept, c, isHead, ⟨place, close⟩, inserts, rfl⟩
  rcases List.head?_eq_some_iff.mp isHead with ⟨others, rfl⟩
  exact ⟨document, c, others, place, close, kept, rfl, inserts, rfl⟩

/-- Where no pair is closed, the answer to a typed character is empty. -/
theorem answer_pairing_eq_nothing {document : Document} {c : Char} {others : Text}
    (kept : server.document? uri = some document)
    (inserts : insertion? document (document.offsetOf server.encoding position) c = none) :
    server.answer (.pairing uri position (c :: others)) = .nothing := by
  have noAnswer : server.pairing? uri position (c :: others) = none := by
    simp [pairing?, kept, inserts]
  simp [answer, noAnswer]

/-- Once the closing character has been inserted where a position leads, the answer to the typed
character at that position is empty. -/
theorem answer_after_edit {notification : Notification} {document : Document} {place : Position}
    {earlier later : List Line} {column rest ending before behind others : Text} {c close : Char}
    (tells : notification.event? = some (.changed uri [⟨some ⟨place, place⟩, [close]⟩]))
    (kept : server.document? uri = some document)
    (leads : document.LeadsTo server.encoding position earlier column rest ending later)
    (samePlace : document.offsetOf server.encoding place =
      document.offsetOf server.encoding position)
    (line : column ++ rest = before ++ [c] ++ behind) (opens : OpensPair before c behind)
    (closes : closing? c = some close) :
    (server.after notification).answer (.pairing uri position (c :: others)) = .nothing := by
  have keptNext := document?_after_changed server tells kept
  simp only [List.foldl_cons, List.foldl_nil, changed, Document.byteRangeOf, Nat.max_self,
    samePlace] at keptNext
  apply answer_pairing_eq_nothing keptNext
  rw [encoding_after]
  exact leads.insertion?_replace line opens closes

/-! ## A parenthesis at the end of the only line -/

section Plain

variable {line : Text} (plain : ∀ c ∈ line ++ ['('], Unicode.isLineBreak c = false)

include plain

variable (behind : position.line ≠ 0 ∨ position.character = 0xFFFFFFFF)

include behind

theorem insertion?_end (encoding : PositionEncoding) :
    insertion? ⟨line ++ ['(']⟩ (Document.offsetOf ⟨line ++ ['(']⟩ encoding position) '(' =
      some (Text.byteLen (line ++ ['(']), ')') := by
  have located := Document.located_end_of_plain plain
  rw [Document.offsetOf_end plain behind, Document.insertion?_eq_some, located.clamp_eq,
    located.opensPairAt_iff]
  exact ⟨rfl, rfl, line, rfl, by decide, by simp, by simp⟩

/-- Asked at the end, a server has the parenthesis closed there, and tells this place by the units
of the line, up to multiples of 2^32. -/
theorem respond_pairing_end (enabled : server.settings.pairing.enabled = true)
    (kept : server.document? batchFile.uri = some ⟨line ++ ['(']⟩) :
    let query := Query.pairing batchFile.uri position ['(']
    let place : Position := ⟨0, server.encoding.columnUnits (line ++ ['('])⟩
    server.respond query.method (query.params batchFile) =
      .ok (.edits [⟨⟨place, place⟩, [')']⟩]) := by
  intro query place
  have asks : Query.ofRequest query.method (query.params batchFile) = .ok query :=
    Query.ofRequest_params batchFile rfl
  have found : server.pairing? batchFile.uri position ['('] =
      some (.edits [⟨⟨place, place⟩, [')']⟩]) := by
    simp only [pairing?, enabled, kept, List.head?_cons, Option.bind_eq_bind, Option.bind_some,
      insertion?_end plain behind, Document.positionRangeOf, Document.positionOf_end plain]
    rfl
  rw [respond, asks]
  exact congrArg (fun found : Option Answer => Except.ok (found.getD .nothing)) found

/-- Where the units of the line count as none, the parenthesis is closed at the start of the line,
and the same question is answered again. -/
theorem respond_pairing_end_again (enabled : server.settings.pairing.enabled = true)
    (kept : server.document? batchFile.uri = some ⟨line ++ ['(']⟩)
    (wraps : server.encoding.columnUnits (line ++ ['(']) = 0) :
    let query := Query.pairing batchFile.uri position ['(']
    let place : Position := ⟨0, server.encoding.columnUnits (')' :: (line ++ ['(']))⟩
    server.respond query.method (query.params batchFile) =
        .ok (.edits [⟨⟨⟨0, 0⟩, ⟨0, 0⟩⟩, [')']⟩]) ∧
      (server.after (.changing batchFile [⟨some ⟨⟨0, 0⟩, ⟨0, 0⟩⟩, [')']⟩])).respond query.method
        (query.params batchFile) = .ok (.edits [⟨⟨place, place⟩, [')']⟩]) := by
  intro query place
  have first := respond_pairing_end plain behind enabled kept
  rw [wraps] at first
  refine ⟨first, ?_⟩
  have atStart : Document.Located ⟨line ++ ['(']⟩ 0 [] [] (line ++ ['(']) [] [] :=
    ⟨(Document.located_end_of_plain plain).lines.trans (by simp), rfl⟩
  have placed : Document.offsetOf ⟨line ++ ['(']⟩ server.encoding ⟨0, 0⟩ = 0 :=
    atStart.offsetOf_eq rfl rfl fun _ => by decide
  have keptAfter := document?_after_changed server
    (Notification.event?_changing batchFile [⟨some ⟨⟨0, 0⟩, ⟨0, 0⟩⟩, [')']⟩]) kept
  have edited := Document.replace_cut [] [] (line ++ ['(']) [')']
  simp only [List.foldl_cons, List.foldl_nil, changed, Document.byteRangeOf, placed,
    Nat.max_self] at keptAfter
  have plainAfter : ∀ c ∈ (')' :: line) ++ ['('], Unicode.isLineBreak c = false :=
    List.forall_mem_cons.mpr ⟨rfl, plain⟩
  have again := respond_pairing_end plainAfter behind (by rw [settings_after]; exact enabled)
    (keptAfter.trans (congrArg some edited))
  rw [encoding_after] at again
  exact again

end Plain

end Server

/-- When a pair is closed, its line gets the closing character and all else in the document stays,
and neither there nor behind that character another one is called for. Once the edit of an answer
has been made, the typed character calls for no further edit: not at the position of the edit and,
where the columns can be told, not at the position of the question. -/
theorem pair_closed_once :
    (∀ (document : Document) (offset place : Nat) (typed close : Char),
      Pairing.insertion? document offset typed = some (place, close) →
      document.PairClosed (document.replace ⟨place, place⟩ [close]) place typed close) ∧
    ∀ (server : Server) (method : Text) (params : Json) (edits : List TextEdit),
      server.respond method params = .ok (.edits edits) →
      ∃ uri position typed document edit,
        Query.ofRequest method params = .ok (.pairing uri position typed) ∧
        server.document? uri = some document ∧ edits = [edit] ∧
        edit.range.stop = edit.range.start ∧
        ∀ notification : Notification,
          notification.event? = some (.changed uri [⟨some edit.range, edit.newText⟩]) →
          (∀ method' params', Query.ofRequest method' params' =
              .ok (.pairing uri edit.range.start typed) →
            (server.after notification).respond method' params' = .ok .nothing) ∧
          (document.TellsColumn server.encoding position →
            (server.after notification).respond method params = .ok .nothing) := by
  constructor
  · intro document offset place typed close answered
    exact Document.pairClosed_of_insertion? answered
  · intro server method params edits answered
    rcases Server.exists_pairing_of_respond answered with ⟨uri, position, typed, asks, found⟩
    rcases Server.exists_insertion_of_pairing? found with
      ⟨document, c, others, place, close, kept, rfl, inserts, rfl⟩
    rcases Document.insertion?_eq_some.mp inserts with ⟨closes, rfl, opensAt⟩
    rcases document.exists_leadsTo server.encoding position with
      ⟨earlier, column, rest, ending, later, leads⟩
    have located := leads.located
    rcases located.opensPairAt_iff.mp opensAt with ⟨before, rfl, opens⟩
    refine ⟨uri, position, c :: others, document, _, asks, kept, rfl, rfl, ?_⟩
    intro notification tells
    rw [located.clamp_eq] at tells ⊢
    constructor
    · -- The position of the edit names the same line, whatever becomes of its column.
      intro method' params' asksAgain
      have number : (document.positionOf server.encoding
          (document.offsetOf server.encoding position)).line.toNat = earlier.length := by
        rw [located.positionOf_eq]
        exact UInt32.toNat_ofNat_of_lt'
          (Nat.lt_of_le_of_lt leads.length_le position.line.toNat_lt)
      rcases Document.exists_leadsTo_of_lines located.lines number with
        ⟨column, rest, line, leadsThere⟩
      rw [Server.respond, asksAgain]
      exact congrArg Except.ok
        (Server.answer_after_edit tells kept leadsThere rfl line.symm opens closes)
    · intro tellsColumn
      rw [Server.respond, asks]
      exact congrArg Except.ok (Server.answer_after_edit tells kept leads
        (leads.offsetOf_positionOf tellsColumn) rfl opens closes)

/-- A quote that is closed at a position behind the end of its line, where the position leads behind
the new quote when the question is asked again. -/
theorem pair_closed_once_behind_line :
    let server := (Server.start {} ⟨fun _ => none, []⟩ .utf16).after
      (.opening batchFile Language.id ['"'])
    let query := Query.pairing batchFile.uri ⟨0, 7⟩ ['"']
    let edit : TextEdit := ⟨⟨⟨0, 1⟩, ⟨0, 1⟩⟩, ['"']⟩
    server.respond query.method (query.params batchFile) = .ok (.edits [edit]) ∧
      (server.after (.changing batchFile [⟨some edit.range, edit.newText⟩])).respond query.method
        (query.params batchFile) = .ok .nothing := by
  intro server query edit
  have opens := Notification.event?_opening batchFile Language.id ['"']
  have kept : server.document? batchFile.uri = some ⟨['"']⟩ :=
    Server.document?_after_opened _ opens isBatchDocument_batchFile
  have asks : Query.ofRequest query.method (query.params batchFile) = .ok query :=
    Query.ofRequest_params batchFile rfl
  have enabled : server.settings.pairing.enabled = true := by
    rw [Server.settings_after]
    rfl
  have utf16 : server.encoding = .utf16 := Server.encoding_after _ _
  have inserts : Pairing.insertion? ⟨['"']⟩ (Document.offsetOf ⟨['"']⟩ .utf16 ⟨0, 7⟩) '"' =
      some (1, '"') := by
    decide +kernel
  have found : server.pairing? batchFile.uri ⟨0, 7⟩ ['"'] = some (.edits [edit]) := by
    simp only [Server.pairing?, enabled, kept, utf16, List.head?_cons, Option.bind_eq_bind,
      Option.bind_some, inserts]
    decide +kernel
  have answered : server.respond query.method (query.params batchFile) = .ok (.edits [edit]) := by
    rw [Server.respond, asks]
    exact congrArg (fun found : Option Answer => Except.ok (found.getD .nothing)) found
  refine ⟨answered, ?_⟩
  rcases pair_closed_once.2 server _ _ _ answered with
    ⟨uri, position, typed, document, other, asksToo, keptToo, same, _, closes⟩
  obtain ⟨rfl, rfl, rfl⟩ := Query.pairing.inj (Except.ok.inj (asks.symm.trans asksToo))
  obtain rfl := Option.some.inj (kept.symm.trans keptToo)
  obtain rfl := (List.cons.inj same).1
  apply (closes _ (Notification.event?_changing batchFile _)).2
  left
  decide +kernel

/-- In a line of 2^32 parentheses the answer at the greatest column, or on the next line, tells the
start of the line, so that the last parenthesis is still open when the question is asked again. -/
theorem not_pair_closed_once :
    let server := (Server.start {} ⟨fun _ => none, []⟩ .utf16).after
      (.opening batchFile Language.id (List.replicate 0x100000000 '('))
    let edit : TextEdit := ⟨⟨⟨0, 0⟩, ⟨0, 0⟩⟩, [')']⟩
    let isAskedAgain (position : Position) : Prop :=
      let query := Query.pairing batchFile.uri position ['(']
      server.respond query.method (query.params batchFile) = .ok (.edits [edit]) ∧
        (server.after (.changing batchFile [⟨some edit.range, edit.newText⟩])).respond query.method
          (query.params batchFile) = .ok (.edits [⟨⟨⟨0, 1⟩, ⟨0, 1⟩⟩, [')']⟩])
    isAskedAgain ⟨0, 0xFFFFFFFF⟩ ∧ isAskedAgain ⟨1, 0⟩ := by
  intro server edit isAskedAgain
  have last : List.replicate 0x100000000 '(' = List.replicate 0xFFFFFFFF '(' ++ ['('] :=
    List.replicate_succ'
  have plain : ∀ c ∈ List.replicate 0xFFFFFFFF '(' ++ ['('], Unicode.isLineBreak c = false := by
    intro c isIn
    rw [← last] at isIn
    rw [List.eq_of_mem_replicate isIn]
    rfl
  have utf16 : server.encoding = .utf16 := Server.encoding_after _ _
  have enabled : server.settings.pairing.enabled = true := by
    rw [Server.settings_after]
    rfl
  have kept : server.document? batchFile.uri = some ⟨List.replicate 0xFFFFFFFF '(' ++ ['(']⟩ := by
    rw [← last]
    exact Server.document?_after_opened _ (Notification.event?_opening ..)
      isBatchDocument_batchFile
  have count : PositionEncoding.utf16.unitCount (List.replicate 0xFFFFFFFF '(' ++ ['(']) =
      0x100000000 := by
    rw [← last, PositionEncoding.unitCount_replicate]
    rfl
  have wraps : server.encoding.columnUnits (List.replicate 0xFFFFFFFF '(' ++ ['(']) = 0 := by
    rw [utf16, ← UInt32.toNat_inj, PositionEncoding.toNat_columnUnits, count]
    rfl
  have behindEdit : server.encoding.columnUnits
      (')' :: (List.replicate 0xFFFFFFFF '(' ++ ['('])) = 1 := by
    rw [utf16, ← UInt32.toNat_inj, PositionEncoding.toNat_columnUnits,
      PositionEncoding.unitCount_cons, count]
    rfl
  have answers {position : Position}
      (behind : position.line ≠ 0 ∨ position.character = 0xFFFFFFFF) : isAskedAgain position := by
    have again := Server.respond_pairing_end_again plain behind enabled kept wraps
    rw [behindEdit] at again
    exact again
  exact ⟨answers (.inr rfl), answers (.inl (by decide))⟩

end BatchLens
