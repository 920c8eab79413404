import BatchLens.Proofs.Text.Cut
import BatchLens.Text.Line

/-!
# Lines and cuts

The lines of a text follow from the lines of its two halves wherever it is cut, except between
a carriage return and its line feed: the last line of the first half and the first line of
the second half are one line of the whole (`linesBy_append`). Conversely every place inside a line
is such a cut, and the lines in front of it are those of the first half (`cut_of_linesBy`). What is
said elsewhere about the number of a line, its start, or a column in it comes down to these two
statements.

Both hold for every choice of the characters that end a line, so that two notions of a line can
be compared.
-/

namespace BatchLens

namespace Line

/-- What a line spells, its break included. -/
def spelling (line : Line) : Text := line.content ++ line.ending

/-- What lines spell one after the other. -/
def joined (lines : List Line) : Text := lines.flatMap spelling

@[simp]
theorem joined_nil : joined [] = [] := rfl

@[simp]
theorem joined_cons (line : Line) (others : List Line) :
    joined (line :: others) = line.content ++ (line.ending ++ joined others) := by
  simp [joined, spelling]

@[simp]
theorem joined_append (earlier later : List Line) :
    joined (earlier ++ later) = joined earlier ++ joined later := by
  simp [joined]

/-- A line with a number cuts a list of lines. -/
theorem exists_split {lines : List Line} {index : Nat} (isLine : index < lines.length) :
    ∃ earlier line later, lines = earlier ++ line :: later ∧ earlier.length = index := by
  refine ⟨lines.take index, lines[index], lines.drop (index + 1), ?_, ?_⟩
  · rw [← List.drop_eq_getElem_cons isLine, List.take_append_drop]
  · exact List.length_take_of_le (Nat.le_of_lt isLine)

@[simp]
theorem totalLen_eq_byteLen_joined (lines : List Line) :
    totalLen lines = (joined lines).byteLen := by
  induction lines with
  | nil => rfl
  | cons line others ih => simp [totalLen, byteLen, ih, Nat.add_assoc]

end Line

namespace Text

/-- Whether a carriage return and its line feed lie on the two sides of a cut. -/
def SplitsBreak (before behind : Text) : Prop :=
  before.getLast? = some '\r' ∧ behind.head? = some '\n'

instance (before behind : Text) : Decidable (SplitsBreak before behind) :=
  inferInstanceAs (Decidable (_ ∧ _))

/-- A longer first half does not change what lies on the two sides of a cut. -/
theorem SplitsBreak.of_append (first : Text) {before behind : Text}
    (splits : SplitsBreak before behind) : SplitsBreak (first ++ before) behind := by
  refine ⟨?_, splits.2⟩
  rw [List.getLast?_append, splits.1, Option.some_or]

theorem SplitsBreak.of_cons {c : Char} {before behind : Text}
    (splits : SplitsBreak before behind) : SplitsBreak (c :: before) behind :=
  SplitsBreak.of_append [c] splits

theorem not_splitsBreak_nil_left (behind : Text) : ¬SplitsBreak [] behind := by
  simp [SplitsBreak]

/-- What ends a line: a carriage return with its line feed, or one character that is a break. -/
def IsEnding (isBreak : Char → Bool) (ending : Text) : Prop :=
  ending = ['\r', '\n'] ∨ ∃ c, isBreak c = true ∧ ending = [c]

theorem IsEnding.ne_nil {isBreak : Char → Bool} {ending : Text}
    (ends : IsEnding isBreak ending) : ending ≠ [] := by
  rcases ends with rfl | ⟨c, _, rfl⟩ <;> simp

variable {isBreak : Char → Bool}

/-! ## One character in front -/

theorem linesBy_cons_of_isBreak {c : Char} {rest : Text} (ends : isBreak c = true)
    (single : ¬SplitsBreak [c] rest) :
    linesBy isBreak (c :: rest) = ⟨[], [c]⟩ :: linesBy isBreak rest := by
  rw [linesBy, if_pos ends]
  rintro behind rfl rfl
  exact single ⟨rfl, rfl⟩

theorem linesBy_cons_of_not_isBreak {c : Char} {rest : Text} {line : Line} {others : List Line}
    (inside : isBreak c = false) (single : ¬SplitsBreak [c] rest)
    (restLines : linesBy isBreak rest = line :: others) :
    linesBy isBreak (c :: rest) = line.push c :: others := by
  rw [linesBy, if_neg (by simp [inside]), restLines]
  rintro behind rfl rfl
  exact single ⟨rfl, rfl⟩

theorem linesBy_ne_nil (text : Text) : linesBy isBreak text ≠ [] := by
  fun_cases linesBy isBreak text <;> simp

theorem exists_first_line (isBreak : Char → Bool) (text : Text) :
    ∃ line others, linesBy isBreak text = line :: others :=
  List.exists_cons_of_ne_nil (linesBy_ne_nil text)

/-- Induction over a text in the way in which it is cut into lines. -/
theorem linesBy_induction (isBreak : Char → Bool) {motive : Text → List Line → Prop}
    (empty : motive [] [⟨[], []⟩])
    (pair : ∀ rest, motive rest (linesBy isBreak rest) →
      motive ('\r' :: '\n' :: rest) (⟨[], ['\r', '\n']⟩ :: linesBy isBreak rest))
    (atBreak : ∀ c rest, isBreak c = true → ¬SplitsBreak [c] rest →
      motive rest (linesBy isBreak rest) → motive (c :: rest) (⟨[], [c]⟩ :: linesBy isBreak rest))
    (inLine : ∀ c rest line others, isBreak c = false → ¬SplitsBreak [c] rest →
      linesBy isBreak rest = line :: others → motive rest (line :: others) →
      motive (c :: rest) (line.push c :: others))
    (text : Text) : motive text (linesBy isBreak text) := by
  have single {c : Char} {rest : Text}
      (noPair : ∀ behind, c = '\r' → rest = '\n' :: behind → False) :
      ¬SplitsBreak [c] rest := by
    rintro ⟨isReturn, isFeed⟩
    rcases rest with _ | ⟨d, behind⟩
    · simp at isFeed
    · simp only [List.getLast?_singleton, Option.some.injEq] at isReturn
      simp only [List.head?_cons, Option.some.injEq] at isFeed
      exact noPair behind isReturn (by rw [isFeed])
  fun_induction linesBy isBreak text with
  | case1 => exact empty
  | case2 rest ih => exact pair rest ih
  | case3 c rest noPair ends ih => exact atBreak c rest ends (single noPair) ih
  | case4 c rest noPair inside noLines ih => exact absurd noLines (linesBy_ne_nil rest)
  | case5 c rest noPair inside line others restLines ih =>
      rw [restLines] at ih
      exact inLine c rest line others (by simpa using inside) (single noPair) restLines ih

/-! ## The shape of the lines -/

/-- The shape of the lines of a text: no line has a break inside, and all but the last end in
one. -/
inductive AreLines (isBreak : Char → Bool) : List Line → Prop where
  | last {content : Text} (plain : ∀ c ∈ content, isBreak c = false) :
      AreLines isBreak [⟨content, []⟩]
  | cons {content ending : Text} {others : List Line}
      (plain : ∀ c ∈ content, isBreak c = false) (ends : IsEnding isBreak ending)
      (areOthers : AreLines isBreak others) : AreLines isBreak (⟨content, ending⟩ :: others)

theorem areLines_linesBy (text : Text) : AreLines isBreak (linesBy isBreak text) := by
  induction text using linesBy_induction isBreak with
  | empty => exact .last (by simp)
  | pair rest ih => exact .cons (by simp) (Or.inl rfl) ih
  | atBreak c rest ends single ih => exact .cons (by simp) (Or.inr ⟨c, ends, rfl⟩) ih
  | inLine c rest line others inside single restLines ih =>
      cases ih with
      | last plain => exact .last (by simpa [inside] using plain)
      | cons plain ends areOthers => exact .cons (by simpa [inside] using plain) ends areOthers

/-- No line contains a break. -/
theorem AreLines.plain {lines : List Line} (areLines : AreLines isBreak lines) {line : Line}
    (isLine : line ∈ lines) : ∀ c ∈ line.content, isBreak c = false := by
  induction areLines with
  | last plain =>
      rw [List.mem_singleton.mp isLine]
      exact plain
  | cons plain ends areOthers ih =>
      rcases List.mem_cons.mp isLine with rfl | isOther
      · exact plain
      · exact ih isOther

theorem AreLines.of_cons {line : Line} {others : List Line}
    (areLines : AreLines isBreak (line :: others)) (follows : others ≠ []) :
    IsEnding isBreak line.ending ∧ AreLines isBreak others := by
  cases areLines with
  | last plain => exact absurd rfl follows
  | cons plain ends areOthers => exact ⟨ends, areOthers⟩

theorem AreLines.of_append {earlier later : List Line}
    (areLines : AreLines isBreak (earlier ++ later)) (follows : later ≠ []) :
    AreLines isBreak later := by
  induction earlier with
  | nil => exact areLines
  | cons first earlier ih => exact ih (areLines.of_cons (by simp [follows])).2

theorem AreLines.ending {earlier later : List Line} {line : Line}
    (areLines : AreLines isBreak (earlier ++ line :: later)) (follows : later ≠ []) :
    IsEnding isBreak line.ending :=
  ((areLines.of_append (by simp)).of_cons follows).1

theorem AreLines.exists_last {lines : List Line} (areLines : AreLines isBreak lines) :
    ∃ earlier column, lines = earlier ++ [⟨column, []⟩] := by
  induction areLines with
  | @last content plain => exact ⟨[], content, rfl⟩
  | @cons content ending others plain ends areOthers ih =>
      rcases ih with ⟨earlier, column, rfl⟩
      exact ⟨⟨content, ending⟩ :: earlier, column, rfl⟩

theorem exists_last_line (isBreak : Char → Bool) (text : Text) :
    ∃ earlier column, linesBy isBreak text = earlier ++ [⟨column, []⟩] :=
  (areLines_linesBy text).exists_last

/-- The lines put the text together again. -/
@[simp]
theorem joined_linesBy (isBreak : Char → Bool) (text : Text) :
    Line.joined (linesBy isBreak text) = text := by
  induction text using linesBy_induction isBreak with
  | empty => rfl
  | pair rest ih => simp [ih]
  | atBreak c rest ends single ih => simp [ih]
  | inLine c rest line others inside single restLines ih =>
      simpa [Line.push] using ih

theorem linesBy_of_plain (returns : isBreak '\r' = true) {text : Text}
    (plain : ∀ c ∈ text, isBreak c = false) : linesBy isBreak text = [⟨text, []⟩] := by
  induction text using linesBy_induction isBreak with
  | empty => rfl
  | pair rest ih => simp [returns] at plain
  | atBreak c rest ends single ih => simp [ends] at plain
  | inLine c rest line others inside single restLines ih =>
      have one := ih fun c isIn => plain c (by simp [isIn])
      simp only [List.cons.injEq] at one
      rcases one with ⟨rfl, rfl⟩
      rfl

/-! ## Cuts -/

/-- A break that a cut of a longer text splits lies at the cut of its halves or inside them. -/
theorem not_splitsBreak_append {c : Char} {rest behind : Text} (single : ¬SplitsBreak [c] rest)
    (whole : ¬SplitsBreak (c :: rest) behind) : ¬SplitsBreak [c] (rest ++ behind) := by
  cases rest with
  | nil => exact whole
  | cons d rest => exact single

theorem exists_lines_of_append {before behind : Text} (whole : ¬SplitsBreak before behind)
    {content ending : Text} {later : List Line}
    (behindLines : linesBy isBreak behind = ⟨content, ending⟩ :: later) :
    ∃ earlier column, linesBy isBreak before = earlier ++ [⟨column, []⟩] ∧
      linesBy isBreak (before ++ behind) = earlier ++ ⟨column ++ content, ending⟩ :: later := by
  induction before using linesBy_induction isBreak with
  | empty => exact ⟨[], [], rfl, behindLines⟩
  | pair rest ih =>
      rcases ih (fun splits => whole splits.of_cons.of_cons) with
        ⟨earlier, column, restLines, allLines⟩
      exact ⟨⟨[], ['\r', '\n']⟩ :: earlier, column, by rw [restLines, List.cons_append],
        by simp [linesBy, allLines]⟩
  | atBreak c rest ends single ih =>
      rcases ih (fun splits => whole splits.of_cons) with ⟨earlier, column, restLines, allLines⟩
      refine ⟨⟨[], [c]⟩ :: earlier, column, by rw [restLines, List.cons_append], ?_⟩
      rw [List.cons_append,
        linesBy_cons_of_isBreak ends (not_splitsBreak_append single whole), allLines,
        List.cons_append]
  | inLine c rest line others inside single restLines ih =>
      rcases ih (fun splits => whole splits.of_cons) with ⟨earlier, column, eq, allLines⟩
      have allSingle := not_splitsBreak_append single whole
      -- The character belongs to the last line in front of the cut only if there is no other.
      cases earlier with
      | nil =>
          simp only [List.nil_append, List.cons.injEq] at eq
          rcases eq with ⟨rfl, rfl⟩
          exact ⟨[], c :: column, rfl, linesBy_cons_of_not_isBreak inside allSingle allLines⟩
      | cons first earlier =>
          simp only [List.cons_append, List.cons.injEq] at eq
          rcases eq with ⟨rfl, rfl⟩
          exact ⟨line.push c :: earlier, column, rfl,
            linesBy_cons_of_not_isBreak inside allSingle allLines⟩

/-- Wherever a text is cut, except between a carriage return and its line feed, the last line in
front of the cut and the first line behind it are one line of the text. -/
theorem linesBy_append {before behind : Text} (whole : ¬SplitsBreak before behind)
    {earlier : List Line} {column : Text}
    (beforeLines : linesBy isBreak before = earlier ++ [⟨column, []⟩])
    {content ending : Text} {later : List Line}
    (behindLines : linesBy isBreak behind = ⟨content, ending⟩ :: later) :
    linesBy isBreak (before ++ behind) = earlier ++ ⟨column ++ content, ending⟩ :: later := by
  rcases exists_lines_of_append whole behindLines with
    ⟨otherEarlier, otherColumn, otherLines, allLines⟩
  rw [otherLines] at beforeLines
  rcases List.append_inj' beforeLines rfl with ⟨rfl, same⟩
  simp only [List.cons.injEq, Line.mk.injEq, and_true] at same
  rw [allLines, same]

theorem not_splitsBreak_of_append {c : Char} {before behind : Text}
    (single : ¬SplitsBreak [c] (before ++ behind)) : ¬SplitsBreak [c] before := by
  cases before with
  | nil => simp [SplitsBreak]
  | cons d before => exact single

theorem splitsBreak_cons_cons {c d : Char} {before behind : Text} :
    SplitsBreak (c :: d :: before) behind ↔ SplitsBreak (d :: before) behind := by
  simp only [SplitsBreak, List.getLast?_cons_cons]

theorem not_splitsBreak_cons {c : Char} {before behind : Text}
    (single : ¬SplitsBreak [c] (before ++ behind)) (whole : ¬SplitsBreak before behind) :
    ¬SplitsBreak (c :: before) behind := by
  cases before with
  | nil => exact single
  | cons d before => rwa [splitsBreak_cons_cons]

theorem text_eq_of_linesBy {text : Text} {earlier later : List Line} {line : Line}
    (textLines : linesBy isBreak text = earlier ++ line :: later)
    {column rest : Text} (content : line.content = column ++ rest) :
    text = (Line.joined earlier ++ column) ++ (rest ++ (line.ending ++ Line.joined later)) := by
  have joined := joined_linesBy isBreak text
  rw [textLines] at joined
  simpa [content] using joined.symm

/-- Every place inside a line is a cut that splits no break, and the lines in front of it are the
earlier lines and the part of the line that leads up to it. -/
theorem cut_of_linesBy {text : Text} {earlier later : List Line} {line : Line}
    (textLines : linesBy isBreak text = earlier ++ line :: later)
    {column rest : Text} (content : line.content = column ++ rest) :
    linesBy isBreak (Line.joined earlier ++ column) = earlier ++ [⟨column, []⟩] ∧
      ¬SplitsBreak (Line.joined earlier ++ column)
        (rest ++ (line.ending ++ Line.joined later)) := by
  -- The place lies at the very start unless a line or a character comes before it.
  have atStart : linesBy isBreak [] = [⟨[], []⟩] ∧
      ¬SplitsBreak [] (rest ++ (line.ending ++ Line.joined later)) :=
    ⟨rfl, not_splitsBreak_nil_left _⟩
  induction text using linesBy_induction isBreak generalizing earlier line column with
  | empty =>
      cases earlier with
      | nil =>
          simp only [List.nil_append, List.cons.injEq] at textLines
          rcases textLines with ⟨rfl, rfl⟩
          rcases List.nil_eq_append_iff.mp content with ⟨rfl, rfl⟩
          exact atStart
      | cons first earlier => simp at textLines
  | pair behind ih =>
      cases earlier with
      | nil =>
          simp only [List.nil_append, List.cons.injEq] at textLines
          rcases textLines with ⟨rfl, rfl⟩
          rcases List.nil_eq_append_iff.mp content with ⟨rfl, rfl⟩
          exact atStart
      | cons first earlier =>
          simp only [List.cons_append, List.cons.injEq] at textLines
          rcases textLines with ⟨rfl, behindLines⟩
          rcases ih behindLines content ⟨rfl, not_splitsBreak_nil_left _⟩ with ⟨lines, whole⟩
          refine ⟨by simp [linesBy, lines], ?_⟩
          exact fun splits => not_splitsBreak_cons (by simp [SplitsBreak]) whole
            (splitsBreak_cons_cons.mp splits)
  | atBreak c behind ends single ih =>
      cases earlier with
      | nil =>
          simp only [List.nil_append, List.cons.injEq] at textLines
          rcases textLines with ⟨rfl, rfl⟩
          rcases List.nil_eq_append_iff.mp content with ⟨rfl, rfl⟩
          exact atStart
      | cons first earlier =>
          simp only [List.cons_append, List.cons.injEq] at textLines
          rcases textLines with ⟨rfl, behindLines⟩
          rcases ih behindLines content ⟨rfl, not_splitsBreak_nil_left _⟩ with ⟨lines, whole⟩
          rw [text_eq_of_linesBy behindLines content] at single
          refine ⟨?_, not_splitsBreak_cons single whole⟩
          exact (linesBy_cons_of_isBreak ends (not_splitsBreak_of_append single)).trans
            (by rw [lines, List.cons_append])
  | inLine c behind first others inside single behindLines ih =>
      cases earlier with
      | nil =>
          simp only [List.nil_append, List.cons.injEq] at textLines
          rcases textLines with ⟨rfl, rfl⟩
          cases column with
          | nil => exact atStart
          | cons d column =>
              simp only [Line.push, List.cons_append, List.cons.injEq] at content
              rcases content with ⟨rfl, content⟩
              have fromFirst : linesBy isBreak behind = [] ++ first :: others := behindLines
              have same : first :: others = [] ++ first :: others := rfl
              rcases ih same content ⟨rfl, not_splitsBreak_nil_left _⟩ with ⟨lines, whole⟩
              rw [text_eq_of_linesBy fromFirst content] at single
              exact ⟨linesBy_cons_of_not_isBreak inside (not_splitsBreak_of_append single) lines,
                not_splitsBreak_cons single whole⟩
      | cons pushed earlier =>
          simp only [List.cons_append, List.cons.injEq] at textLines
          rcases textLines with ⟨rfl, rfl⟩
          have same : first :: (earlier ++ line :: later) = (first :: earlier) ++ line :: later :=
            rfl
          rcases ih same content ⟨rfl, not_splitsBreak_nil_left _⟩ with ⟨lines, whole⟩
          rw [text_eq_of_linesBy (behindLines.trans same) content] at single
          have spelled : Line.joined (first.push c :: earlier) ++ column =
              c :: (Line.joined (first :: earlier) ++ column) := by
            simp [Line.push]
          rw [spelled]
          exact ⟨linesBy_cons_of_not_isBreak inside (not_splitsBreak_of_append single) lines,
            not_splitsBreak_cons single whole⟩

/-- Behind a place inside a line come the rest of that line and the later lines. -/
theorem linesBy_behind {text : Text} {earlier later : List Line} {line : Line}
    (textLines : linesBy isBreak text = earlier ++ line :: later)
    {column rest : Text} (content : line.content = column ++ rest) :
    linesBy isBreak (rest ++ (line.ending ++ Line.joined later)) =
      ⟨rest, line.ending⟩ :: later := by
  rcases cut_of_linesBy textLines content with ⟨beforeLines, whole⟩
  rcases exists_first_line isBreak (rest ++ (line.ending ++ Line.joined later)) with
    ⟨⟨firstContent, firstEnding⟩, others, behindLines⟩
  have allLines := linesBy_append whole beforeLines behindLines
  rw [← text_eq_of_linesBy textLines content, textLines] at allLines
  have same := List.append_cancel_left allLines
  simp only [List.cons.injEq] at same
  rcases same with ⟨rfl, rfl⟩
  rw [behindLines, List.append_cancel_left content]

end Text

end BatchLens
