import BatchLens.Proofs.Text.Lines

/-!
# Two notions of a line

The language-server protocol ends lines at line feeds, carriage returns and pairs of the two. The
server ends them also at the other characters that Unicode counts among the line breaks. On
texts without these both notions give the same lines, and on all other texts the server sees
more of them (`lines_eq_protocolLines_iff`).
-/

namespace BatchLens.Text

/-- The characters that end a line in the protocol. -/
def isProtocolBreak (c : Char) : Bool := c == '\n' || c == '\r'

/-- The lines of a text, in order, as the protocol defines them. -/
def protocolLines (text : Text) : List Line := linesBy isProtocolBreak text

/-- The characters that end a line for the server and not in the protocol: vertical tab, form
feed, next line, and the line and paragraph separators. -/
def isExtraBreak (c : Char) : Bool :=
  c == '\x0B' || c == '\x0C' || c == '\u0085' || c == '\u2028' || c == '\u2029'

theorem isLineBreak_eq (c : Char) :
    Unicode.isLineBreak c = (isProtocolBreak c || isExtraBreak c) := by
  have codes (d : Char) : (c == d) = (c.toNat == d.toNat) := by
    rw [Bool.eq_iff_iff, beq_iff_eq, beq_iff_eq, Char.toNat_inj]
  simp only [Unicode.isLineBreak, isProtocolBreak, isExtraBreak, codes, Char.reduceToNat]
  rw [Bool.eq_iff_iff]
  simp only [Bool.or_eq_true, Bool.and_eq_true, decide_eq_true_eq, beq_iff_eq]
  omega

theorem isExtraBreak_eq_false_of_isProtocolBreak {c : Char} (ends : isProtocolBreak c = true) :
    isExtraBreak c = false := by
  simp only [isProtocolBreak, Bool.or_eq_true, beq_iff_eq] at ends
  rcases ends with rfl | rfl <;> rfl

/-- Texts without an extra break have the same lines in both senses. -/
theorem linesBy_isLineBreak_eq {text : Text} (plain : ∀ c ∈ text, isExtraBreak c = false) :
    linesBy Unicode.isLineBreak text = protocolLines text := by
  rw [protocolLines]
  induction text using linesBy_induction isProtocolBreak with
  | empty => rfl
  | pair rest ih =>
      have restPlain : ∀ c ∈ rest, isExtraBreak c = false := fun c isIn => plain c (by simp [isIn])
      rw [linesBy, ih restPlain]
  | atBreak c rest ends single ih =>
      have restPlain : ∀ c ∈ rest, isExtraBreak c = false := fun c isIn => plain c (by simp [isIn])
      have serverEnds : Unicode.isLineBreak c = true := by simp [isLineBreak_eq, ends]
      rw [linesBy_cons_of_isBreak serverEnds single, ih restPlain]
  | inLine c rest line others inside single restLines ih =>
      have restPlain : ∀ c ∈ rest, isExtraBreak c = false := fun c isIn => plain c (by simp [isIn])
      have serverInside : Unicode.isLineBreak c = false := by
        simp [isLineBreak_eq, inside, plain c]
      exact linesBy_cons_of_not_isBreak serverInside single (ih restPlain)

/-- The server sees one more line for each extra break. -/
theorem length_linesBy_isLineBreak (text : Text) :
    (linesBy Unicode.isLineBreak text).length =
      (protocolLines text).length + text.countP isExtraBreak := by
  rw [protocolLines]
  induction text using linesBy_induction isProtocolBreak with
  | empty => rfl
  | pair rest ih =>
      rw [linesBy, List.length_cons, List.length_cons, ih,
        List.countP_cons_of_neg (by decide), List.countP_cons_of_neg (by decide)]
      omega
  | atBreak c rest ends single ih =>
      have serverEnds : Unicode.isLineBreak c = true := by simp [isLineBreak_eq, ends]
      have noExtra := isExtraBreak_eq_false_of_isProtocolBreak ends
      rw [linesBy_cons_of_isBreak serverEnds single, List.length_cons, List.length_cons, ih,
        List.countP_cons_of_neg (by simp [noExtra])]
      omega
  | inLine c rest line others inside single restLines ih =>
      cases extra : isExtraBreak c with
      | true =>
          have serverEnds : Unicode.isLineBreak c = true := by simp [isLineBreak_eq, extra]
          rw [linesBy_cons_of_isBreak serverEnds single, List.length_cons, ih, List.length_cons,
            List.length_cons, List.countP_cons_of_pos extra]
          omega
      | false =>
          have serverInside : Unicode.isLineBreak c = false := by
            simp [isLineBreak_eq, inside, extra]
          rcases exists_first_line Unicode.isLineBreak rest with
            ⟨first, more, serverLines⟩
          rw [serverLines] at ih
          rw [linesBy_cons_of_not_isBreak serverInside single serverLines,
            List.countP_cons_of_neg (by simp [extra])]
          simpa using ih

/-- The first line that the server sees is the beginning of the first line in the protocol. -/
theorem exists_protocol_content {text content ending : Text} {others : List Line}
    (serverLines : linesBy Unicode.isLineBreak text = ⟨content, ending⟩ :: others) :
    ∃ more protocolEnding protocolOthers,
      protocolLines text = ⟨content ++ more, protocolEnding⟩ :: protocolOthers := by
  have areLines : AreLines Unicode.isLineBreak (⟨content, ending⟩ :: others) := by
    rw [← serverLines]
    exact areLines_linesBy text
  have plain : ∀ c ∈ content, isProtocolBreak c = false := by
    intro c isIn
    have inside := areLines.plain (List.mem_cons_self ..) c isIn
    rw [isLineBreak_eq, Bool.or_eq_false_iff] at inside
    exact inside.1
  have contentLines : protocolLines content = [] ++ [⟨content, []⟩] := linesBy_of_plain rfl plain
  have noColumn : (⟨content, ending⟩ : Line).content = content ++ [] := by simp
  have fromFirst : linesBy Unicode.isLineBreak text = [] ++ ⟨content, ending⟩ :: others :=
    serverLines
  have whole := (cut_of_linesBy fromFirst noColumn).2
  rcases exists_first_line isProtocolBreak ([] ++ (ending ++ Line.joined others)) with
    ⟨⟨more, protocolEnding⟩, protocolOthers, behindLines⟩
  refine ⟨more, protocolEnding, protocolOthers, ?_⟩
  rw [text_eq_of_linesBy fromFirst noColumn]
  exact linesBy_append whole contentLines behindLines

/-- The two notions agree on exactly the texts without an extra break. -/
theorem lines_eq_protocolLines_iff (text : Text) :
    text.lines = text.protocolLines ↔ ∀ c ∈ text, isExtraBreak c = false := by
  constructor
  · intro same
    have lengths := length_linesBy_isLineBreak text
    rw [← lines, same] at lengths
    have none : text.countP isExtraBreak = 0 := by omega
    simpa [List.countP_eq_zero] using none
  · exact linesBy_isLineBreak_eq

end BatchLens.Text
