import BatchLens.Proofs.Checked.Document
import BatchLens.Proofs.Protocol.SemanticToken

/-!
# Semantic tokens without faults

The tokens of a document are written one after the other, each by its differences to the one before
it, in numbers of 32 bits. What is cut out of the lines for them lies inside, so that a difference
is all that can fail (`foldlM_tokenStep`), and none does exactly if every token comes behind the one
before it in these numbers as well (`foldlM_push`). That is so as long as the numbers are large
enough for the lines of the document and their columns (`semanticTokens_eq`).
-/

namespace BatchLens

/-- The tokens that have been written, with the line and the start of the last one. -/
structure TokenRun where
  written : List SemanticToken
  line : UInt32
  start : UInt32

namespace Checked

/-- Writes one more token. -/
def push (run : TokenRun) (token : PlacedToken) : Checked TokenRun := do
  let deltaLine ← difference token.line run.line
  let deltaStart ←
    (if deltaLine == 0 then difference token.start run.start else .ok token.start)
  let next : SemanticToken :=
    { deltaLine, deltaStart, length := token.length,
      tokenType := SemanticToken.typeOf token.category, modifiers := 0 }
  .ok ⟨run.written ++ [next], token.line, token.start⟩

/-- Writes the token of a span of a line, unless it has no units. -/
def tokenStep (encoding : PositionEncoding) (index : Nat) (line : Text) (run : TokenRun)
    (span : Span) : Checked TokenRun := do
  let before ← front line span.start
  let token : PlacedToken :=
    { line := UInt32.ofNat index
      start := encoding.columnUnits before
      length := encoding.columnUnits (span.text line)
      category := span.category }
  if token.length == 0 then .ok run else push run token

/-- Writes the tokens of a line. -/
def tokensOfLine (document : Document) (encoding : PositionEncoding) (run : TokenRun)
    (index : Nat) : Checked TokenRun := do
  let line ← line document index
  (Span.resolveOverlaps (classify line)).foldlM (tokenStep encoding index line) run

/-- The tokens of a range of lines of a document. -/
def semanticTokens (document : Document) (encoding : PositionEncoding) (start stop : Nat) :
    Checked (List SemanticToken) := do
  let run ← (List.range' start (min stop document.lineCount - start)).foldlM
    (tokensOfLine document encoding) ⟨[], 0, 0⟩
  .ok run.written

variable {document : Document} {encoding : PositionEncoding}

/-! ## Differences -/

/-- One step: a token is written if it does not start earlier than the last one. -/
theorem push_eq (run : TokenRun) (token : PlacedToken) :
    push run token =
      if run.line ≤ token.line ∧ (token.line = run.line → run.start ≤ token.start) then
        .ok ⟨run.written ++ SemanticToken.relative run.line run.start [token],
          token.line, token.start⟩
      else .error .underflow := by
  by_cases lineLe : run.line ≤ token.line
  · have sameLine : token.line - run.line = 0 ↔ token.line = run.line :=
      SemanticToken.sub_eq_zero_iff
    rw [push, difference_of_le lineLe, ok_bind]
    by_cases same : token.line = run.line
    · by_cases startLe : run.start ≤ token.start
      · refine Eq.trans ?_ (if_pos ⟨lineLe, fun _ => startLe⟩).symm
        simp [sameLine.mpr same, difference_of_le startLe, SemanticToken.relative]
      · refine Eq.trans ?_ (if_neg fun both => startLe (both.2 same)).symm
        simp [sameLine.mpr same, difference_of_not_le startLe, bind, Except.bind]
    · refine Eq.trans ?_ (if_pos ⟨lineLe, fun isSame => absurd isSame same⟩).symm
      simp [mt sameLine.mp same, SemanticToken.relative]
  · rw [if_neg fun both => lineLe both.1, push, difference_of_not_le lineLe]
    rfl

/-- All steps: tokens are written as they are sent if no difference falls below zero, and otherwise
the first such difference is the fault. -/
theorem foldlM_push (tokens : List PlacedToken) (run : TokenRun) :
    (PlacedToken.NeverUnderflows run.line run.start tokens →
      ∃ last : TokenRun, tokens.foldlM push run = .ok last ∧
        last.written = run.written ++ SemanticToken.relative run.line run.start tokens) ∧
    (¬PlacedToken.NeverUnderflows run.line run.start tokens →
      tokens.foldlM push run = .error .underflow) := by
  induction tokens generalizing run with
  | nil =>
      exact ⟨fun _ => ⟨run, rfl, by simp [SemanticToken.relative]⟩,
        fun falls => absurd trivial falls⟩
  | cons token others ih =>
      rw [List.foldlM_cons, push_eq]
      by_cases follows : run.line ≤ token.line ∧ (token.line = run.line → run.start ≤ token.start)
      · rw [if_pos follows, ok_bind]
        rcases ih ⟨run.written ++ SemanticToken.relative run.line run.start [token], token.line,
          token.start⟩ with ⟨written, fails⟩
        constructor
        · rintro ⟨_, _, never⟩
          rcases written never with ⟨last, result, isWritten⟩
          refine ⟨last, result, ?_⟩
          rw [isWritten, List.append_assoc]
          rfl
        · intro falls
          exact fails fun never => falls ⟨follows.1, follows.2, never⟩
      · rw [if_neg follows]
        exact ⟨fun never => absurd ⟨never.1, never.2.1⟩ follows, fun _ => rfl⟩

/-! ## What is cut out of a line -/

theorem tokenStep_eq {run : TokenRun} {index : Nat} {span : Span} {start stop : Nat}
    (kept : (index, span) ∈ document.numberedSpans start stop) :
    tokenStep encoding index (document.line index) run span =
      if (SemanticToken.place encoding index (document.line index) span).length != 0 then
        push run (SemanticToken.place encoding index (document.line index) span)
      else .ok run := by
  rcases Document.exists_coversLine_of_mem_numberedSpans kept with
    ⟨_, earlier, before, middle, behind, ending, later, covers⟩
  have cut : front (document.line index) span.start =
      .ok (Text.takeBytes span.start (document.line index)) := by
    rw [covers.line_eq, covers.covers.takeBytes_start, covers.covers.start_eq, List.append_assoc,
      front_cut]
  rw [tokenStep, cut, ok_bind, SemanticToken.place]
  simp only [bne, Bool.not_eq_true']
  split <;> simp_all

theorem foldlM_tokenStep {start stop : Nat} {numbered : List (Nat × Span)}
    (kept : numbered ⊆ document.numberedSpans start stop) (run : TokenRun) :
    (numbered.foldlM (fun run entry =>
        tokenStep encoding entry.1 (document.line entry.1) run entry.2) run) =
      ((numbered.map fun (index, span) =>
        SemanticToken.place encoding index (document.line index) span).filter fun token =>
          token.length != 0).foldlM push run := by
  rw [List.foldlM_filter, List.foldlM_map]
  induction numbered generalizing run with
  | nil => rfl
  | cons entry others ih =>
      rw [List.cons_subset] at kept
      rw [List.foldlM_cons, List.foldlM_cons, tokenStep_eq kept.1]
      exact congrArg (_ >>= ·) (funext fun next => ih kept.2 next)

/-- The tokens of some lines are written like tokens that have been placed. -/
theorem semanticTokens_eq_foldlM (document : Document) (encoding : PositionEncoding)
    (start stop : Nat) :
    semanticTokens document encoding start stop =
      (SemanticToken.ofLines document encoding start stop).foldlM push ⟨[], 0, 0⟩ >>= fun run =>
        .ok run.written := by
  have nested : (List.range' start (min stop document.lineCount - start)).foldlM
      (tokensOfLine document encoding) ⟨[], 0, 0⟩ =
      (document.numberedSpans start stop).foldlM (fun run entry =>
        tokenStep encoding entry.1 (document.line entry.1) run entry.2) ⟨[], 0, 0⟩ := by
    rw [Document.numberedSpans]
    generalize List.range' start (min stop document.lineCount - start) = numbers
    generalize TokenRun.mk [] 0 0 = run
    induction numbers generalizing run with
    | nil => rfl
    | cons index others ih =>
        rw [List.foldlM_cons, List.flatMap_cons, List.foldlM_append, List.foldlM_map]
        simp only [tokensOfLine, line_eq, ok_bind, ih]
        rfl
  rw [semanticTokens, nested, foldlM_tokenStep (List.Subset.refl _),
    SemanticToken.ofLines_eq_filter_place]

theorem semanticTokens_of_neverUnderflows {start stop : Nat}
    (never : PlacedToken.NeverUnderflows 0 0
      (SemanticToken.ofLines document encoding start stop)) :
    semanticTokens document encoding start stop =
      .ok (document.semanticTokens encoding start stop) := by
  rcases (foldlM_push (SemanticToken.ofLines document encoding start stop) ⟨[], 0, 0⟩).1 never with
    ⟨last, result, written⟩
  rw [semanticTokens_eq_foldlM, result, ok_bind, written]
  rfl

theorem semanticTokens_of_not_neverUnderflows {start stop : Nat}
    (falls : ¬PlacedToken.NeverUnderflows 0 0
      (SemanticToken.ofLines document encoding start stop)) :
    semanticTokens document encoding start stop = .error .underflow := by
  rw [semanticTokens_eq_foldlM, (foldlM_push _ ⟨[], 0, 0⟩).2 falls]
  rfl

/-- A difference is all that can fail. -/
theorem eq_underflow_of_semanticTokens {start stop : Nat} {fault : Fault}
    (fails : semanticTokens document encoding start stop = .error fault) : fault = .underflow := by
  by_cases never : PlacedToken.NeverUnderflows 0 0
      (SemanticToken.ofLines document encoding start stop)
  · rw [semanticTokens_of_neverUnderflows never] at fails
    exact absurd fails (by simp)
  · rw [semanticTokens_of_not_neverUnderflows never] at fails
    exact (Except.error.inj fails).symm

/-- Where lines and columns can be told in 32 bits, nothing fails. -/
theorem semanticTokens_eq (starts : document.StartsFit encoding) (start stop : Nat) :
    semanticTokens document encoding start stop =
      .ok (document.semanticTokens encoding start stop) :=
  semanticTokens_of_neverUnderflows (SemanticToken.neverUnderflows_ofLines starts start stop)

end Checked

end BatchLens
