import BatchLens.Proofs.Protocol.LongDocument
import BatchLens.Proofs.Protocol.Spelling

/-!
# The tokens of some lines

Decoding the tokens of a range of lines gives what decoding the tokens of all lines gives on the
lines of that range (`semanticTokens_agree`), although both start their sums at the first line of
the document. What a sum comes to is not changed by leaving out the tokens of other lines, as long
as lines are told apart by their numbers (`decodeFrom_filter`). In 32 bits the numbers of lines
repeat, and the tokens are then still those of the lines of the range, in order
(`map_wrapped_decodeFrom`).
-/

namespace BatchLens

/-- A token as an editor has it that counts in 32 bits. -/
def DecodedToken.wrapped (token : DecodedToken) : DecodedToken :=
  { token with line := token.line % 0x100000000, start := token.start % 0x100000000 }

/-- The tokens of all lines of a document, each with the number of its line. -/
def Document.numberedTokens (document : Document) (encoding : PositionEncoding) :
    List (Nat × PlacedToken) :=
  (List.range document.lineCount).flatMap fun index =>
    (SemanticToken.ofLine encoding index (document.line index)).map fun token => (index, token)

/-- Whether of two lists of tokens one has all the tokens of a document, and the other exactly
those of them that are on some of its lines. Where 32 bits are enough for the numbers of the lines,
these can be told from the tokens themselves. -/
structure SemanticToken.AgreeOn (lines : Nat → Bool) (document : Document)
    (encoding : PositionEncoding) (all part : List SemanticToken) : Prop where
  all_eq : (decode all).map DecodedToken.wrapped =
    (document.numberedTokens encoding).map fun numbered => numbered.2.decoded
  part_eq : (decode part).map DecodedToken.wrapped =
    ((document.numberedTokens encoding).filter fun numbered => lines numbered.1).map
      fun numbered => numbered.2.decoded
  decoded_eq : document.lineCount ≤ 0x100000000 →
    decode part = (decode all).filter fun token => lines token.line

variable {document : Document} {encoding : PositionEncoding}

/-! ## The tokens and their lines -/

theorem Document.line_of_mem_numberedTokens {numbered : Nat × PlacedToken}
    (isNumbered : numbered ∈ document.numberedTokens encoding) :
    numbered.1 < document.lineCount ∧ numbered.2.line = UInt32.ofNat numbered.1 := by
  rcases List.mem_flatMap.mp isNumbered with ⟨index, isLine, onLine⟩
  rcases List.mem_map.mp onLine with ⟨token, isToken, rfl⟩
  rcases List.mem_map.mp (List.mem_filter.mp isToken).1 with ⟨span, _, rfl⟩
  exact ⟨List.mem_range.mp isLine, rfl⟩

/-- The numbers of the lines do not decrease. -/
theorem Document.numberedTokens_pairwise (document : Document) (encoding : PositionEncoding) :
    (document.numberedTokens encoding).Pairwise fun left right => left.1 ≤ right.1 := by
  rw [numberedTokens, List.pairwise_flatMap]
  constructor
  · intro index _
    rw [List.pairwise_map]
    exact List.pairwise_of_forall fun _ _ => Nat.le_refl index
  · apply List.pairwise_lt_range.imp
    intro above below ordered left isLeft right isRight
    rcases List.mem_map.mp isLeft with ⟨_, _, rfl⟩
    rcases List.mem_map.mp isRight with ⟨_, _, rfl⟩
    exact Nat.le_of_lt ordered

namespace SemanticToken

theorem filter_range (start stop count : Nat) :
    (List.range count).filter (fun index => start ≤ index && index < stop) =
      List.range' start (min stop count - start) := by
  induction count with
  | zero => simp
  | succ count ih =>
      rw [List.range_succ, List.filter_append, ih]
      by_cases inside : start ≤ count ∧ count < stop
      · have longer : min stop (count + 1) - start = min stop count - start + 1 := by omega
        have last : start + (min stop count - start) = count := by omega
        rw [longer, List.range'_1_concat, last]
        simp [inside]
      · have same : min stop (count + 1) - start = min stop count - start := by omega
        rw [same]
        simpa using inside

/-- The tokens of a range are those of all lines whose line is in the range. -/
theorem ofLines_eq_filter (document : Document) (encoding : PositionEncoding)
    (start stop : Nat) :
    ofLines document encoding start stop =
      ((document.numberedTokens encoding).filter fun numbered =>
        start ≤ numbered.1 && numbered.1 < stop).map Prod.snd := by
  rw [ofLines, flatMap_numbered_lines, ← filter_range, Document.numberedTokens]
  generalize List.range document.lineCount = indices
  induction indices with
  | nil => rfl
  | cons index others ih =>
      rw [List.flatMap_cons, List.filter_append, List.map_append, ← ih, List.filter_map]
      cases inside : decide (start ≤ index) && decide (index < stop) with
      | true => simp [inside, Function.comp_def]
      | false => simp [inside, Function.comp_def]

theorem ofLines_all (document : Document) (encoding : PositionEncoding) :
    ofLines document encoding 0 document.lineCount =
      (document.numberedTokens encoding).map Prod.snd := by
  rw [ofLines_eq_filter, List.filter_eq_self.mpr]
  intro numbered isNumbered
  simpa using (Document.line_of_mem_numberedTokens isNumbered).1

/-! ## Counting in 32 bits -/

/-- In 32 bits the sums come to the tokens themselves, wherever a difference falls below zero. -/
theorem map_wrapped_decodeFrom (line start : UInt32) {lineSum startSum : Nat}
    (isLine : lineSum % 0x100000000 = line.toNat)
    (isStart : startSum % 0x100000000 = start.toNat) (tokens : List PlacedToken) :
    (decodeFrom lineSum startSum (relative line start tokens)).map DecodedToken.wrapped =
      tokens.map PlacedToken.decoded := by
  induction tokens generalizing line start lineSum startSum with
  | nil => rfl
  | cons token others ih =>
      have lineWraps : (lineSum + (token.line - line).toNat) % 0x100000000 = token.line.toNat := by
        have lineLt := line.toNat_lt
        have tokenLt := token.line.toNat_lt
        rw [UInt32.toNat_sub]
        omega
      have startWraps : nextStart line start startSum token % 0x100000000 = token.start.toNat := by
        have startLt := start.toNat_lt
        have tokenLt := token.start.toNat_lt
        rw [nextStart]
        split
        next =>
          rw [UInt32.toNat_sub]
          omega
        next => exact Nat.mod_eq_of_lt tokenLt
      rw [decodeFrom_relative_cons, List.map_cons, ih token.line token.start lineWraps startWraps,
        DecodedToken.wrapped, lineWraps, startWraps]
      rfl

/-! ## Leaving out lines -/

/-- Behind tokens of other lines the sums start anew, so that these may be left out. Either both
sums are the same so far, or the last token that was left out is on another line than all those that
are to follow. -/
theorem decodeFrom_filter (lines : Nat → Bool) {line start line' start' : UInt32}
    {startSum startSum' : Nat} {tokens : List PlacedToken}
    (sums : (line = line' ∧ start = start' ∧ startSum = startSum') ∨
      (lines line.toNat = false ∧ line' ≤ line))
    (behind : ∀ token ∈ tokens, line ≤ token.line)
    (ordered : tokens.Pairwise fun left right => left.line ≤ right.line) :
    decodeFrom line'.toNat startSum'
        (relative line' start' (tokens.filter fun token => lines token.line.toNat)) =
      (decodeFrom line.toNat startSum (relative line start tokens)).filter
        fun token => lines token.line := by
  induction tokens generalizing line start line' start' startSum startSum' with
  | nil => rfl
  | cons token others ih =>
      rcases List.pairwise_cons.mp ordered with ⟨behindToken, othersOrdered⟩
      have lineLe := behind token List.mem_cons_self
      have lineLe' : line' ≤ line := by
        rcases sums with ⟨rfl, _⟩ | ⟨_, notBehind⟩
        · exact UInt32.le_refl line
        · exact notBehind
      rw [decodeFrom_relative_cons, toNat_add_sub lineLe]
      cases isKept : lines token.line.toNat with
      | false =>
          rw [List.filter_cons_of_neg (by simp [isKept]),
            List.filter_cons_of_neg (by simp [isKept])]
          exact ih (.inr ⟨isKept, UInt32.le_trans lineLe' lineLe⟩) behindToken othersOrdered
      | true =>
          have sameStart : nextStart line' start' startSum' token =
              nextStart line start startSum token := by
            rcases sums with ⟨rfl, rfl, rfl⟩ | ⟨isLeftOut, _⟩
            · rfl
            · -- The token is not on the line of the one that was left out: both sums start anew.
              have different : token.line ≠ line := by
                rintro same
                rw [same, isLeftOut] at isKept
                exact Bool.false_ne_true isKept
              have different' : token.line ≠ line' := by
                rintro same
                exact different (UInt32.le_antisymm (same ▸ lineLe') lineLe)
              rw [nextStart, nextStart, if_neg different, if_neg different']
          rw [List.filter_cons_of_pos (by simpa using isKept),
            List.filter_cons_of_pos (by simpa using isKept), decodeFrom_relative_cons,
            toNat_add_sub (UInt32.le_trans lineLe' lineLe), sameStart,
            ih (.inl ⟨rfl, rfl, rfl⟩) behindToken othersOrdered]

theorem numberedTokens_lines (few : document.lineCount ≤ 0x100000000) :
    ((document.numberedTokens encoding).map Prod.snd).Pairwise
        (fun left right => left.line ≤ right.line) ∧
      ∀ numbered ∈ document.numberedTokens encoding, numbered.2.line.toNat = numbered.1 := by
  have isLine : ∀ numbered ∈ document.numberedTokens encoding,
      numbered.2.line.toNat = numbered.1 := by
    intro numbered isNumbered
    rcases Document.line_of_mem_numberedTokens isNumbered with ⟨isLine, number⟩
    rw [number]
    exact UInt32.toNat_ofNat_of_lt' (Nat.lt_of_lt_of_le isLine few)
  refine ⟨?_, isLine⟩
  rw [List.pairwise_map]
  apply (document.numberedTokens_pairwise encoding).imp_of_mem
  intro left right isLeft isRight ordered
  rw [UInt32.le_iff_toNat_le, isLine left isLeft, isLine right isRight]
  exact ordered

theorem agreeOn_semanticTokens (document : Document) (encoding : PositionEncoding)
    (start stop : Nat) :
    AgreeOn (fun line => start ≤ line && line < stop) document encoding
      (document.semanticTokens encoding 0 document.lineCount)
      (document.semanticTokens encoding start stop) := by
  have wrapped (tokens : List PlacedToken) :
      (decode (relative 0 0 tokens)).map DecodedToken.wrapped = tokens.map PlacedToken.decoded :=
    map_wrapped_decodeFrom 0 0 rfl rfl tokens
  refine ⟨?_, ?_, ?_⟩
  · rw [Document.semanticTokens, wrapped, ofLines_all, List.map_map]
    rfl
  · rw [Document.semanticTokens, wrapped, ofLines_eq_filter, List.map_map]
    rfl
  · intro few
    rcases numberedTokens_lines few with ⟨ordered, isLine⟩
    have isPart : ofLines document encoding start stop =
        (ofLines document encoding 0 document.lineCount).filter fun token =>
          start ≤ token.line.toNat && token.line.toNat < stop := by
      rw [ofLines_eq_filter, ofLines_all, List.filter_map]
      congr 1
      apply List.filter_congr
      intro numbered isNumbered
      rw [Function.comp_apply, isLine numbered isNumbered]
    rw [← ofLines_all] at ordered
    rw [Document.semanticTokens, isPart]
    exact decodeFrom_filter (fun line => start ≤ line && line < stop) (.inl ⟨rfl, rfl, rfl⟩)
      (fun _ _ => UInt32.zero_le) ordered

end SemanticToken

/-- In a document of at most 2^32 lines, the tokens of a range of lines, empty, reversed or beyond
the end as it may be, are the tokens of all lines on the lines of that range; and so are those with
which a server answers for a document that it keeps, from the line where the asked range starts to
the one where it ends. In a longer document this is so for the tokens in 32 bits, line by line. -/
theorem Document.semanticTokens_agree :
    (∀ (document : Document) (encoding : PositionEncoding) (start stop : Nat),
      SemanticToken.AgreeOn (fun line => start ≤ line && line < stop) document encoding
        (document.semanticTokens encoding 0 document.lineCount)
        (document.semanticTokens encoding start stop)) ∧
    ∀ (server : Server) (uri : Uri) (document : Document) (range : PositionRange)
        (paramsOfAll paramsOfRange : Json),
      server.document? uri = some document →
      Query.ofRequest "textDocument/semanticTokens/full".toList paramsOfAll =
        .ok (.tokens uri) →
      Query.ofRequest "textDocument/semanticTokens/range".toList paramsOfRange =
        .ok (.tokensOfRange uri range) →
      ∃ all part,
        server.respond "textDocument/semanticTokens/full".toList paramsOfAll =
          .ok (.tokens all) ∧
        server.respond "textDocument/semanticTokens/range".toList paramsOfRange =
          .ok (.tokens part) ∧
        SemanticToken.AgreeOn
          (fun line => range.start.line.toNat ≤ line && line ≤ range.stop.line.toNat)
          document server.encoding all part := by
  refine ⟨SemanticToken.agreeOn_semanticTokens, ?_⟩
  intro server uri document range paramsOfAll paramsOfRange isKept asksAll asksRange
  refine ⟨document.semanticTokens server.encoding 0 document.lineCount,
    document.semanticTokens server.encoding range.start.line.toNat (range.stop.line.toNat + 1),
    ?_, ?_, ?_⟩
  · rw [Server.respond, asksAll]
    simp [Except.map, Server.answer, Server.tokens?, isKept]
  · rw [Server.respond, asksRange]
    simp [Except.map, Server.answer, Server.tokensOfRange?, isKept]
  · have agree := SemanticToken.agreeOn_semanticTokens document server.encoding
      range.start.line.toNat (range.stop.line.toNat + 1)
    simpa only [Nat.lt_succ_iff] using agree

/-- A range that starts on the second of two lines and ends far behind the last. -/
theorem Document.semanticTokens_agree_behind_end :
    let document : Document := ⟨"dir\nrem".toList⟩
    let server : Server :=
      ⟨{}, ⟨fun _ => none, []⟩, .utf16, Workspace.empty.insert batchFile.uri document⟩
    ∃ all part,
      server.respond "textDocument/semanticTokens/full".toList
        ((Query.tokens batchFile.uri).params batchFile) = .ok (.tokens all) ∧
      server.respond "textDocument/semanticTokens/range".toList
        ((Query.tokensOfRange batchFile.uri ⟨⟨1, 0⟩, ⟨4294967295, 0⟩⟩).params batchFile) =
          .ok (.tokens part) ∧
      SemanticToken.decode part = (SemanticToken.decode all).filter fun token =>
        1 ≤ token.line && token.line ≤ 4294967295 := by
  intro document server
  let range : PositionRange := ⟨⟨1, 0⟩, ⟨4294967295, 0⟩⟩
  have isKept : server.document? batchFile.uri = some document := by decide +kernel
  have aboutAll : (Query.tokens batchFile.uri).uri = batchFile.uri := rfl
  have aboutRange : (Query.tokensOfRange batchFile.uri range).uri = batchFile.uri := rfl
  have few : document.lineCount ≤ 0x100000000 := by decide +kernel
  rcases semanticTokens_agree.2 server batchFile.uri document range _ _ isKept
      (Query.ofRequest_params batchFile aboutAll) (Query.ofRequest_params batchFile aboutRange) with
    ⟨all, part, answersAll, answersRange, agree⟩
  exact ⟨all, part, answersAll, answersRange, agree.decoded_eq few⟩

/-- Behind 2^32 line feeds a second bar is decoded on the first line when all tokens are asked for,
but not when those of the first line are. -/
theorem Document.not_semanticTokens_agree :
    let document := barsApart 0xFFFFFFFF
    SemanticToken.decode (document.semanticTokens .utf16 0 1) ≠
      (SemanticToken.decode (document.semanticTokens .utf16 0 document.lineCount)).filter
        fun token => 0 ≤ token.line && token.line < 1 := by
  intro document
  have part : document.semanticTokens .utf16 0 1 = [⟨0, 1, 1, 3, 0⟩] := by
    rw [semanticTokens, SemanticToken.ofLines_first_of_barsApart]
    decide
  have all : document.semanticTokens .utf16 0 document.lineCount =
      [⟨0, 1, 1, 3, 0⟩, ⟨0, 0xFFFFFFFF, 1, 3, 0⟩] := by
    rw [semanticTokens, SemanticToken.ofLines_barsApart]
    decide
  rw [part, all]
  decide

end BatchLens
