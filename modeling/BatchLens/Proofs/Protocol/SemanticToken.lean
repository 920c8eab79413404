import Mathlib.Data.List.Forall2
import BatchLens.Proofs.Batch.Classification
import BatchLens.Proofs.Protocol.Position
import BatchLens.Protocol.SemanticToken

/-!
# Decoded tokens

An editor decodes the tokens that it receives by running sums. What it then has are the spans of the
lines, one token each, in order (`decode_semanticTokens`). The proof has three parts: the spans
that are kept of a line lie one behind the other (`resolveOverlaps_pairwise`), so do the tokens that
are placed for them (`endsBefore_of_numberedSpans`), and differences between tokens in that
order are summed up to the tokens themselves (`decodeFrom_relative`).
-/

namespace BatchLens

/-! ## The spans that are kept -/

namespace Span

theorem mem_keepApart {covered : Nat} {spans : List Span} {span : Span}
    (kept : span ∈ keepApart covered spans) :
    span ∈ spans ∧ span.length ≠ 0 ∧ covered ≤ span.start := by
  induction spans generalizing covered with
  | nil => exact absurd kept List.not_mem_nil
  | cons first others ih =>
      rw [keepApart] at kept
      split at kept
      next =>
        rcases ih kept with ⟨isOther, nonempty, behind⟩
        exact ⟨List.mem_cons_of_mem first isOther, nonempty, behind⟩
      next keeps =>
        simp only [Bool.or_eq_true, beq_iff_eq, decide_eq_true_eq, not_or, Nat.not_lt] at keeps
        rcases List.mem_cons.mp kept with rfl | isLater
        · exact ⟨List.mem_cons_self, keeps⟩
        · rcases ih isLater with ⟨isOther, nonempty, behind⟩
          refine ⟨List.mem_cons_of_mem first isOther, nonempty, ?_⟩
          simp only [Span.stop] at behind
          omega

theorem keepApart_pairwise (covered : Nat) (spans : List Span) :
    (keepApart covered spans).Pairwise fun left right => left.stop ≤ right.start := by
  induction spans generalizing covered with
  | nil => exact .nil
  | cons first others ih =>
      rw [keepApart]
      split
      next => exact ih covered
      next => exact .cons (fun span kept => (mem_keepApart kept).2.2) (ih first.stop)

theorem mem_resolveOverlaps {spans : List Span} {span : Span}
    (kept : span ∈ resolveOverlaps spans) : span ∈ spans ∧ span.length ≠ 0 := by
  rcases mem_keepApart kept with ⟨isSpan, nonempty, _⟩
  exact ⟨List.mem_mergeSort.mp isSpan, nonempty⟩

/-- The spans that are kept lie one behind the other. -/
theorem resolveOverlaps_pairwise (spans : List Span) :
    (resolveOverlaps spans).Pairwise fun left right => left.stop ≤ right.start :=
  keepApart_pairwise 0 _

theorem resolveOverlaps_of_pairwise {spans : List Span}
    (ordered : spans.Pairwise fun left right => left.startsBefore right) :
    resolveOverlaps spans = keepApart 0 spans := by
  rw [resolveOverlaps, List.mergeSort_of_pairwise ordered]

end Span

/-- The spans that are kept of a line. -/
def Document.keptSpans (document : Document) (index : Nat) : List Span :=
  Span.resolveOverlaps (classify (document.line index))

/-- The spans that are kept of the lines with numbers from `start` on and below `stop`, each with
the number of its line. -/
def Document.numberedSpans (document : Document) (start stop : Nat) : List (Nat × Span) :=
  (List.range' start (min stop document.lineCount - start)).flatMap fun index =>
    (document.keptSpans index).map fun span => (index, span)

/-! ## Decoding -/

/-- A token as an editor decodes it. -/
structure DecodedToken where
  line : Nat
  start : Nat
  length : Nat
  tokenType : Nat
  modifiers : Nat
  deriving DecidableEq, Repr

namespace DecodedToken

/-- The position at which a token starts. -/
def startPosition (token : DecodedToken) : Position :=
  ⟨UInt32.ofNat token.line, UInt32.ofNat token.start⟩

/-- The position at which a token stops. -/
def stopPosition (token : DecodedToken) : Position :=
  ⟨UInt32.ofNat token.line, UInt32.ofNat (token.start + token.length)⟩

/-- Whether a token starts before another one. -/
def StartsBefore (left right : DecodedToken) : Prop :=
  left.line < right.line ∨ (left.line = right.line ∧ left.start < right.start)

/-- Whether a token ends before another one starts, or just there. -/
def EndsBefore (left right : DecodedToken) : Prop :=
  left.line < right.line ∨ (left.line = right.line ∧ left.start + left.length ≤ right.start)

/-- Whether a token says of a span of a line what there is to say: the number of the line and that
of the category, and two positions on the line that lead to the two ends of the span. -/
structure Describes (token : DecodedToken) (document : Document) (encoding : PositionEncoding)
    (index : Nat) (span : Span) : Prop where
  line_eq : token.line = index
  tokenType_eq : token.tokenType = SemanticToken.typeOf span.category
  modifiers_eq : token.modifiers = 0
  length_pos : 0 < token.length
  stop_le : token.start + token.length ≤ encoding.unitCount (document.line index)
  offsetOf_start :
    document.offsetOf encoding token.startPosition = document.lineStart index + span.start
  offsetOf_stop :
    document.offsetOf encoding token.stopPosition = document.lineStart index + span.stop

end DecodedToken

/-- A placed token as an editor is to decode it. -/
def PlacedToken.decoded (token : PlacedToken) : DecodedToken :=
  ⟨token.line.toNat, token.start.toNat, token.length.toNat, SemanticToken.typeOf token.category, 0⟩

/-- Whether no difference between two tokens in a row falls below zero, the first token being
compared with the given line and start. -/
def PlacedToken.NeverUnderflows (line start : UInt32) : List PlacedToken → Prop
  | [] => True
  | token :: others =>
      line ≤ token.line ∧ (token.line = line → start ≤ token.start) ∧
        NeverUnderflows token.line token.start others

namespace SemanticToken

/-- Decodes tokens by running sums, behind a token on the given line that starts there. A token on
another line than the one before it tells its start on its own. -/
def decodeFrom (line start : Nat) : List SemanticToken → List DecodedToken
  | [] => []
  | token :: others =>
      let line := line + token.deltaLine.toNat
      let start :=
        if token.deltaLine = 0 then start + token.deltaStart.toNat else token.deltaStart.toNat
      ⟨line, start, token.length.toNat, token.tokenType, token.modifiers⟩ ::
        decodeFrom line start others

/-- Decodes the tokens of an answer. -/
def decode (tokens : List SemanticToken) : List DecodedToken := decodeFrom 0 0 tokens

/-- The sum of the starts up to a token, behind a token on the given line that starts there. -/
def nextStart (line start : UInt32) (startSum : Nat) (token : PlacedToken) : Nat :=
  if token.line = line then startSum + (token.start - start).toNat else token.start.toNat

theorem sub_eq_zero_iff {line next : UInt32} : next - line = 0 ↔ next = line := by
  have lineLt := line.toNat_lt
  have nextLt := next.toNat_lt
  rw [← UInt32.toNat_inj, ← UInt32.toNat_inj, UInt32.toNat_zero, UInt32.toNat_sub]
  omega

/-- One step of the sums. -/
theorem decodeFrom_relative_cons (line start : UInt32) (lineSum startSum : Nat)
    (token : PlacedToken) (others : List PlacedToken) :
    decodeFrom lineSum startSum (relative line start (token :: others)) =
      ⟨lineSum + (token.line - line).toNat, nextStart line start startSum token,
          token.length.toNat, typeOf token.category, 0⟩ ::
        decodeFrom (lineSum + (token.line - line).toNat) (nextStart line start startSum token)
          (relative token.line token.start others) := by
  have sameLine : token.line - line = 0 ↔ token.line = line := sub_eq_zero_iff
  by_cases same : token.line = line
  · rw [nextStart, if_pos same]
    simp only [relative, decodeFrom, sameLine.mpr same, if_true, beq_self_eq_true]
  · have other := mt sameLine.mp same
    rw [nextStart, if_neg same]
    simp only [relative, decodeFrom, other, beq_iff_eq, if_false]

theorem toNat_add_sub {line next : UInt32} (lineLe : line ≤ next) :
    line.toNat + (next - line).toNat = next.toNat := by
  have ordered := UInt32.le_iff_toNat_le.mp lineLe
  rw [UInt32.toNat_sub_of_le _ _ lineLe]
  omega

/-- Where no difference falls below zero, the sums are the tokens themselves. -/
theorem decodeFrom_relative {line start : UInt32} {tokens : List PlacedToken}
    (never : PlacedToken.NeverUnderflows line start tokens) :
    decodeFrom line.toNat start.toNat (relative line start tokens) =
      tokens.map PlacedToken.decoded := by
  induction tokens generalizing line start with
  | nil => rfl
  | cons token others ih =>
      rcases never with ⟨lineLe, startLe, neverLater⟩
      have startSum : nextStart line start start.toNat token = token.start.toNat := by
        rw [nextStart]
        split
        next same => exact toNat_add_sub (startLe same)
        next => rfl
      rw [decodeFrom_relative_cons, toNat_add_sub lineLe, startSum, ih neverLater]
      rfl

end SemanticToken

/-! ## Placing -/

namespace Document

variable {document : Document} {encoding : PositionEncoding} {index : Nat} {span : Span}

/-- The token that an editor is to decode for a span of a line. -/
def tokenOf (document : Document) (encoding : PositionEncoding) (index : Nat) (span : Span) :
    DecodedToken :=
  (SemanticToken.place encoding index (document.line index) span).decoded

/-- The token of a span of a line in numbers of any size. -/
def exactTokenOf (document : Document) (encoding : PositionEncoding) (index : Nat) (span : Span) :
    DecodedToken :=
  ⟨index, encoding.unitCount (Text.takeBytes span.start (document.line index)),
    encoding.unitCount (span.text (document.line index)), SemanticToken.typeOf span.category, 0⟩

section CoversLine

variable {earlier later : List Line} {before middle behind ending : Text}

/-- The units of a span are those of the characters in front of it and of those that it covers. -/
theorem CoversLine.exactTokenOf_eq
    (covers : document.CoversLine index span earlier before middle behind ending later) :
    document.exactTokenOf encoding index span =
      ⟨index, encoding.unitCount before, encoding.unitCount middle,
        SemanticToken.typeOf span.category, 0⟩ := by
  have parts := covers.covers
  simp only [exactTokenOf, covers.line_eq, parts.takeBytes_start, parts.text_under]

/-- In numbers of 32 bits the start of a token is told as long as something may stand behind it, and
its length up to multiples of 2^32. -/
theorem CoversLine.tokenOf_eq (starts : document.StartsFit encoding)
    (covers : document.CoversLine index span earlier before middle behind ending later)
    (nonempty : span.length ≠ 0) :
    document.tokenOf encoding index span =
      ⟨index, encoding.unitCount before, encoding.unitCount middle % 0x100000000,
        SemanticToken.typeOf span.category, 0⟩ := by
  have small := starts.unitCount_le ⟨before ++ middle ++ behind, ending⟩ (by simp [covers.lines])
  have middlePositive := encoding.unitCount_pos (covers.covers.middle_ne_nil nonempty)
  simp only [PositionEncoding.unitCount_append] at small
  have isLine : index < document.lineCount := by
    rw [← covers.index_eq, lineCount_of_lines covers.lines]
    omega
  have lineEq : (UInt32.ofNat index).toNat = index :=
    UInt32.toNat_ofNat_of_lt' (Nat.lt_of_lt_of_le isLine starts.lineCount_le)
  have startEq := encoding.toNat_columnUnits_of_lt before (by omega)
  have lengthEq := encoding.toNat_columnUnits middle
  have parts := covers.covers
  simp only [tokenOf, PlacedToken.decoded, SemanticToken.place, covers.line_eq,
    parts.takeBytes_start, parts.text_under, lineEq, startEq, lengthEq]

theorem CoversLine.describes (fits : document.Fits encoding)
    (covers : document.CoversLine index span earlier before middle behind ending later)
    (nonempty : span.length ≠ 0) :
    (document.tokenOf encoding index span).Describes document encoding index span := by
  have small := fits.unitCount_located covers.located_start
  rw [PositionEncoding.unitCount_append] at small
  have lineEq := fits.toNat_line covers.located_start
  have startEq : (UInt32.ofNat (encoding.unitCount before)).toNat = encoding.unitCount before :=
    UInt32.toNat_ofNat_of_lt' (by simp only [UInt32.size]; omega)
  have stopEq : (UInt32.ofNat (encoding.unitCount before + encoding.unitCount middle)).toNat =
      encoding.unitCount (before ++ middle) := by
    rw [PositionEncoding.unitCount_append]
    exact UInt32.toNat_ofNat_of_lt' (by simp only [UInt32.size]; omega)
  have middlePositive := encoding.unitCount_pos (covers.covers.middle_ne_nil nonempty)
  rw [covers.tokenOf_eq fits.startsFit nonempty, Nat.mod_eq_of_lt (by omega)]
  refine ⟨rfl, rfl, rfl, middlePositive, ?_, ?_, ?_⟩
  · simp [covers.line_eq]
  · apply covers.located_start.offsetOf_eq
    · rw [← lineEq, covers.index_eq]
      rfl
    · exact startEq
    · intro _
      simp only [DecodedToken.startPosition, startEq]
      omega
  · apply covers.located_stop.offsetOf_eq
    · rw [← lineEq, covers.index_eq]
      rfl
    · exact stopEq
    · intro more
      have behindPositive := encoding.unitCount_pos more
      simp only [DecodedToken.stopPosition, stopEq, PositionEncoding.unitCount_append]
      omega

end CoversLine

theorem exists_coversLine_of_mem_numberedSpans {start stop : Nat}
    (kept : (index, span) ∈ document.numberedSpans start stop) :
    span.length ≠ 0 ∧ ∃ earlier before middle behind ending later,
      document.CoversLine index span earlier before middle behind ending later := by
  rcases List.mem_flatMap.mp kept with ⟨number, isNumber, isSpan⟩
  rcases List.mem_map.mp isSpan with ⟨spanOfLine, keptOfLine, same⟩
  obtain ⟨rfl, rfl⟩ := Prod.mk.inj same
  rcases Span.mem_resolveOverlaps keptOfLine with ⟨isClassified, nonempty⟩
  have isLine : number < document.lineCount := by
    have := List.mem_range'_1.mp isNumber
    omega
  exact ⟨nonempty, exists_coversLine isLine isClassified⟩

theorem describes_of_mem_numberedSpans (fits : document.Fits encoding) {start stop : Nat}
    (kept : (index, span) ∈ document.numberedSpans start stop) :
    (document.tokenOf encoding index span).Describes document encoding index span := by
  rcases exists_coversLine_of_mem_numberedSpans kept with ⟨nonempty, _, _, _, _, _, _, covers⟩
  exact covers.describes fits nonempty

/-- The tokens of two spans on one line are in the order of the spans. -/
theorem endsBefore_of_stop_le {next : Span} {earlier later earlier' later' : List Line}
    {before middle behind ending before' middle' behind' ending' : Text}
    (covers : document.CoversLine index span earlier before middle behind ending later)
    (coversNext : document.CoversLine index next earlier' before' middle' behind' ending' later')
    (ordered : span.stop ≤ next.start) :
    (document.exactTokenOf encoding index span).EndsBefore
      (document.exactTokenOf encoding index next) := by
  have sameLine := covers.line_eq.symm.trans coversNext.line_eq
  rw [covers.covers.stop_eq, coversNext.covers.start_eq] at ordered
  rw [List.append_assoc before'] at sameLine
  rcases Text.cut_of_byteLen_le sameLine ordered with ⟨between, rfl, _⟩
  rw [covers.exactTokenOf_eq, coversNext.exactTokenOf_eq]
  refine .inr ⟨rfl, ?_⟩
  simp only [PositionEncoding.unitCount_append]
  omega

/-- The tokens are in the order of the text. -/
theorem endsBefore_exactTokenOf (document : Document) (encoding : PositionEncoding)
    (start stop : Nat) :
    ((document.numberedSpans start stop).map fun (index, span) =>
      document.exactTokenOf encoding index span).Pairwise DecodedToken.EndsBefore := by
  have isKept : ∀ number ∈ List.range' start (min stop document.lineCount - start),
      ∀ numbered ∈ (document.keptSpans number).map fun span => (number, span),
        numbered ∈ document.numberedSpans start stop :=
    fun number isNumber numbered kept => List.mem_flatMap.mpr ⟨number, isNumber, kept⟩
  rw [List.pairwise_map, numberedSpans, List.pairwise_flatMap]
  constructor
  · intro number isNumber
    rw [List.pairwise_map]
    apply (Span.resolveOverlaps_pairwise _).imp_of_mem
    intro left right leftKept rightKept ordered
    have leftNumbered := isKept number isNumber _ (List.mem_map_of_mem leftKept)
    have rightNumbered := isKept number isNumber _ (List.mem_map_of_mem rightKept)
    rcases exists_coversLine_of_mem_numberedSpans leftNumbered with ⟨_, _, _, _, _, _, _, covers⟩
    rcases exists_coversLine_of_mem_numberedSpans rightNumbered with
      ⟨_, _, _, _, _, _, _, coversNext⟩
    exact endsBefore_of_stop_le covers coversNext ordered
  · have increasing : (List.range' start (min stop document.lineCount - start)).Pairwise (· < ·) :=
      List.pairwise_lt_range'
    apply increasing.imp
    intro above below ordered left leftKept right rightKept
    rcases List.mem_map.mp leftKept with ⟨_, _, rfl⟩
    rcases List.mem_map.mp rightKept with ⟨_, _, rfl⟩
    exact .inl ordered

/-- In numbers of 32 bits a token may only lose length, so that it ends before the next one all the
same. -/
theorem endsBefore_tokenOf (starts : document.StartsFit encoding) {start stop : Nat}
    {entry next : Nat × Span}
    (kept : entry ∈ document.numberedSpans start stop)
    (nextKept : next ∈ document.numberedSpans start stop)
    (ordered : (document.exactTokenOf encoding entry.1 entry.2).EndsBefore
      (document.exactTokenOf encoding next.1 next.2)) :
    (document.tokenOf encoding entry.1 entry.2).EndsBefore
      (document.tokenOf encoding next.1 next.2) := by
  rcases exists_coversLine_of_mem_numberedSpans kept with ⟨nonempty, _, _, _, _, _, _, covers⟩
  rcases exists_coversLine_of_mem_numberedSpans nextKept with
    ⟨nextNonempty, _, _, _, _, _, _, nextCovers⟩
  rw [covers.exactTokenOf_eq, nextCovers.exactTokenOf_eq] at ordered
  rw [covers.tokenOf_eq starts nonempty, nextCovers.tokenOf_eq starts nextNonempty]
  rcases ordered with above | ⟨sameLine, behind⟩
  · exact .inl above
  · exact .inr ⟨sameLine, Nat.le_trans (Nat.add_le_add_left (Nat.mod_le _ _) _) behind⟩

theorem endsBefore_of_numberedSpans (starts : document.StartsFit encoding) (start stop : Nat) :
    ((document.numberedSpans start stop).map fun (index, span) =>
      document.tokenOf encoding index span).Pairwise DecodedToken.EndsBefore := by
  have ordered := endsBefore_exactTokenOf document encoding start stop
  rw [List.pairwise_map] at ordered ⊢
  exact ordered.imp_of_mem fun kept nextKept => endsBefore_tokenOf starts kept nextKept

end Document

namespace SemanticToken

variable {document : Document} {encoding : PositionEncoding}

theorem flatMap_numbered_lines {α : Type} (document : Document) (start stop : Nat)
    (onLine : Nat → Text → List α) :
    (((document.lines.zipIdx.take stop).drop start).flatMap fun (line, index) =>
        onLine index line.content) =
      (List.range' start (min stop document.lineCount - start)).flatMap fun index =>
        onLine index (document.line index) := by
  have numbered : ((document.lines.zipIdx.take stop).drop start).map
        (fun (line, index) => onLine index line.content) =
      (List.range' start (min stop document.lineCount - start)).map fun index =>
        onLine index (document.line index) := by
    apply List.ext_getElem
    · simp [Document.lineCount]
    · intro number isLeft isRight
      simp only [List.length_map, List.length_range', Document.lineCount] at isRight
      have isLine : start + number < document.lines.length := by omega
      simp [Document.line, isLine]
  rw [List.flatMap_def, List.flatMap_def, numbered]

/-- Each span that is kept is placed, and gives a token unless it has no units. -/
theorem ofLines_eq_filter_place (document : Document) (encoding : PositionEncoding)
    (start stop : Nat) :
    ofLines document encoding start stop =
      ((document.numberedSpans start stop).map fun (index, span) =>
        place encoding index (document.line index) span).filter fun token => token.length != 0 := by
  rw [ofLines, flatMap_numbered_lines, Document.numberedSpans, List.map_flatMap,
    List.filter_flatMap]
  apply List.flatMap_congr
  intro index _
  rw [ofLine, List.map_map]
  rfl

/-- None of the spans that are kept is without units, so that each gives a token. -/
theorem ofLines_eq (fits : document.Fits encoding) (start stop : Nat) :
    ofLines document encoding start stop =
      (document.numberedSpans start stop).map fun (index, span) =>
        place encoding index (document.line index) span := by
  rw [ofLines_eq_filter_place, List.filter_eq_self]
  intro token isToken
  rcases List.mem_map.mp isToken with ⟨⟨index, span⟩, kept, rfl⟩
  have positive := (Document.describes_of_mem_numberedSpans fits kept).length_pos
  have notZero : (place encoding index (document.line index) span).length ≠ 0 := by
    intro zero
    simp [Document.tokenOf, PlacedToken.decoded, zero] at positive
  simpa using notZero

theorem neverUnderflows_of_pairwise {line start : UInt32} {tokens : List PlacedToken}
    (first : ∀ token ∈ tokens, line ≤ token.line ∧ (token.line = line → start ≤ token.start))
    (ordered : (tokens.map PlacedToken.decoded).Pairwise DecodedToken.EndsBefore) :
    PlacedToken.NeverUnderflows line start tokens := by
  induction tokens generalizing line start with
  | nil => trivial
  | cons token others ih =>
      rw [List.map_cons, List.pairwise_cons] at ordered
      rcases first token List.mem_cons_self with ⟨lineLe, startLe⟩
      refine ⟨lineLe, startLe, ih ?_ ordered.2⟩
      intro other isOther
      have endsBefore := ordered.1 _ (List.mem_map_of_mem isOther)
      simp only [DecodedToken.EndsBefore, PlacedToken.decoded, UInt32.toNat_inj] at endsBefore
      rw [UInt32.le_iff_toNat_le, UInt32.le_iff_toNat_le]
      rcases endsBefore with above | ⟨sameLine, behind⟩
      · refine ⟨Nat.le_of_lt above, ?_⟩
        intro same
        rw [same] at above
        exact absurd above (Nat.lt_irrefl _)
      · refine ⟨Nat.le_of_eq (congrArg UInt32.toNat sameLine), ?_⟩
        intro _
        omega

theorem decoded_ofLines (fits : document.Fits encoding) (start stop : Nat) :
    (ofLines document encoding start stop).map PlacedToken.decoded =
      (document.numberedSpans start stop).map fun (index, span) =>
        document.tokenOf encoding index span := by
  rw [ofLines_eq fits, List.map_map]
  rfl

theorem neverUnderflows_ofLines (starts : document.StartsFit encoding) (start stop : Nat) :
    PlacedToken.NeverUnderflows 0 0 (ofLines document encoding start stop) := by
  apply neverUnderflows_of_pairwise
  · intro token _
    exact ⟨UInt32.zero_le, fun _ => UInt32.zero_le⟩
  · have ordered := Document.endsBefore_of_numberedSpans starts start stop
    rw [List.pairwise_map] at ordered
    rw [ofLines_eq_filter_place, List.pairwise_map]
    apply List.Pairwise.filter
    rwa [List.pairwise_map]

/-- The tokens of some lines are decoded to one token for each span that is kept of them. -/
theorem decode_semanticTokens_eq (fits : document.Fits encoding) (start stop : Nat) :
    decode (document.semanticTokens encoding start stop) =
      (document.numberedSpans start stop).map fun (index, span) =>
        document.tokenOf encoding index span := by
  rw [← decoded_ofLines fits, decode, Document.semanticTokens]
  exact decodeFrom_relative (neverUnderflows_ofLines fits.startsFit start stop)

end SemanticToken

theorem DecodedToken.EndsBefore.startsBefore {left right : DecodedToken}
    (endsBefore : left.EndsBefore right) (nonempty : 0 < left.length) :
    left.StartsBefore right := by
  rcases endsBefore with above | ⟨sameLine, behind⟩
  · exact .inl above
  · exact .inr ⟨sameLine, by omega⟩

end BatchLens
