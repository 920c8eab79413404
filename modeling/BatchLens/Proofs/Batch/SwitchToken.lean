import BatchLens.Proofs.Batch.Grammar
import BatchLens.Proofs.Pattern.Coverage

/-!
# Switches

A switch stands behind white space, which its match takes along, and its second dash and the length
of its word are settled by preference. Still the search finds exactly the switches of a text
(`findAll_parameter`). No dash belongs to a word, so that a switch is read in one way only
(`WholeSwitch.unique`), and no white space belongs to a switch, so that the white space in front of
one is never taken by the match before.
-/

namespace BatchLens

namespace Grammar

open Pattern

/-- A text cut around a switch: white space in front of it, a slash or one or two dashes, a word,
and no further character of a word behind it. -/
structure WholeSwitch (before written behind : Text) : Prop where
  begins : ∃ c ∈ before.getLast?, Unicode.isWhiteSpace c = true
  spelled : ∃ mark word, written = mark ++ word ∧ mark ∈ switchMarks ∧ word ≠ [] ∧
    ∀ c ∈ word, Unicode.isWordChar c = true
  ends : ∀ c ∈ behind.head?, Unicode.isWordChar c = false

variable {before taken written behind : Text} {token : Option ByteRange}

/-! ## What the pattern takes -/

theorem goesOnWhile_parameter : parameter.GoesOnWhile Unicode.isWordChar :=
  (goesOnWhile_many Unicode.isWordChar).append.append.marked.append

theorem exists_wholeSwitch_of_prefers (prefers : parameter.Prefers before taken behind token) :
    ∃ space written, taken = space :: written ∧ WholeSwitch (before ++ [space]) written behind ∧
      token = some ⟨(before ++ [space]).byteLen, (before ++ [space] ++ written).byteLen⟩ := by
  rcases takes_parameter.mp prefers.takes with
    ⟨space, mark, word, rfl, isSpace, isMark, nonempty, isWord, rfl⟩
  refine ⟨space, mark ++ word, rfl,
    ⟨⟨space, by simp, isSpace⟩, ⟨mark, word, rfl, isMark, nonempty, isWord⟩, ?_⟩, by simp⟩
  exact goesOnWhile_parameter _ _ prefers

/-! ## One switch at a place -/

theorem isSolid_of_mem_switchMarks {mark : Text} (isMark : mark ∈ switchMarks) :
    ∀ c ∈ mark, isSolid c = true := by
  have areSolid : ∀ mark ∈ switchMarks, mark.all isSolid = true := by decide
  exact List.all_eq_true.mp (areSolid mark isMark)

theorem isWordChar_of_mem_switchMarks {mark : Text} (isMark : mark ∈ switchMarks) :
    ∀ c ∈ mark, Unicode.isWordChar c = false := by
  have noLetters : switchMarks.all (·.all (!Unicode.isWordChar ·)) = true := by decide +kernel
  simpa using List.all_eq_true.mp noLetters mark isMark

namespace WholeSwitch

theorem isSolid (whole : WholeSwitch before written behind) :
    ∀ c ∈ written, Grammar.isSolid c = true := by
  rcases whole.spelled with ⟨mark, word, rfl, isMark, _, isWord⟩
  refine List.forall_mem_append.mpr ⟨isSolid_of_mem_switchMarks isMark, ?_⟩
  intro c isIn
  simp [Grammar.isSolid, Unicode.isWhiteSpace_of_isWordChar (isWord c isIn)]

/-- Of two switches that begin at one place neither goes on behind the other. -/
theorem unique {before' written' behind' : Text} (whole : WholeSwitch before written behind)
    (whole' : WholeSwitch before' written' behind')
    (same : written ++ behind = written' ++ behind') : written = written' ∧ behind = behind' := by
  rcases whole.spelled with ⟨mark, word, rfl, isMark, nonempty, isWord⟩
  rcases whole'.spelled with ⟨mark', word', rfl, isMark', nonempty', isWord'⟩
  have wordBegins {word : Text} (nonempty : word ≠ [])
      (isWord : ∀ c ∈ word, Unicode.isWordChar c = true) (behind : Text) :
      ∀ c ∈ (word ++ behind).head?, Unicode.isWordChar c = true := by
    intro c isHead
    rw [List.head?_append_of_ne_nil word nonempty] at isHead
    exact isWord c (List.mem_of_mem_head? isHead)
  rw [List.append_assoc, List.append_assoc] at same
  obtain ⟨rfl, sameRest⟩ := Text.cut_inj same
    (isWordChar_of_mem_switchMarks isMark) (isWordChar_of_mem_switchMarks isMark')
    (wordBegins nonempty isWord behind) (wordBegins nonempty' isWord' behind')
  obtain ⟨rfl, sameBehind⟩ := Text.run_inj sameRest isWord isWord' whole.ends whole'.ends
  exact ⟨rfl, sameBehind⟩

theorem takes {space : Char} (whole : WholeSwitch (before ++ [space]) written behind) :
    parameter.Takes before (space :: written) behind
      (some ⟨(before ++ [space]).byteLen, (before ++ [space] ++ written).byteLen⟩) := by
  rcases whole.begins with ⟨c, isLast, isSpace⟩
  rcases whole.spelled with ⟨mark, word, rfl, isMark, nonempty, isWord⟩
  obtain rfl : space = c := by simpa using isLast
  exact takes_parameter.mpr ⟨space, mark, word, rfl, isSpace, isMark, nonempty, isWord, by simp⟩

/-! ## What the search finds -/

theorem mem_findAll (whole : WholeSwitch before written behind) :
    ⟨before.byteLen, (before ++ written).byteLen⟩ ∈
      parameter.findAll (before ++ written ++ behind) := by
  rcases whole.begins with ⟨space, isLast, isSpace⟩
  rcases List.getLast?_eq_some_iff.mp isLast with ⟨front, rfl⟩
  have nonempty : space :: written ++ behind ≠ [] := List.cons_ne_nil _ _
  rcases exists_reaching_of_takes whole.takes nonempty with
    ⟨front', back, more, rest, token, reaches, found⟩
  rcases exists_wholeSwitch_of_prefers reaches.prefers with
    ⟨space', written', parts, whole', rfl⟩
  have atPlace : back = [] := by
    have begins : ∀ c ∈ (space :: written ++ behind).head?, Grammar.isSolid c = false := by
      simpa [Grammar.isSolid] using isSpace
    apply reaches.back_eq_nil begins
    rw [parts]
    exact whole'.isSolid
  subst atPlace
  obtain rfl : front = front' := by simpa using reaches.before_eq
  have same : space :: (written ++ behind) = space' :: (written' ++ rest) := by
    have cut := reaches.behind_eq
    rw [List.nil_append] at parts
    rw [parts] at cut
    exact cut
  obtain ⟨rfl, sameRest⟩ := List.cons.inj same
  obtain ⟨rfl, rfl⟩ := whole.unique whole' sameRest
  have ends : (pattern .parameter).ReportsToEnd := reportsToEnd_pattern (by decide)
  change _ ∈ (pattern .parameter).findAll _
  rw [ends.findAll_eq]
  simpa [reported, pattern] using found

end WholeSwitch

end Grammar

open Grammar in
/-- The search for switches finds exactly the switches behind white space, from left to right and
each of them once, also where one follows another behind a single space. -/
theorem findAll_parameter (text : Text) :
    (parameter.findAll text).Pairwise (fun left right => left.start < right.start) ∧
      ∀ range, range ∈ parameter.findAll text ↔
        ∃ before written behind, text = before ++ written ++ behind ∧
          WholeSwitch before written behind ∧
          range = ⟨before.byteLen, (before ++ written).byteLen⟩ := by
  refine ⟨Pattern.findAll_increasing parameter text, ?_⟩
  intro range
  constructor
  · intro found
    rcases Pattern.exists_prefers_of_mem_findAll found with
      ⟨before, taken, behind, token, rfl, prefers, rfl⟩
    rcases exists_wholeSwitch_of_prefers prefers with ⟨space, written, rfl, whole, rfl⟩
    exact ⟨before ++ [space], written, behind, by simp, whole, rfl⟩
  · rintro ⟨before, written, behind, rfl, whole, rfl⟩
    exact whole.mem_findAll

example : Grammar.parameter.findAll "/a /b -- --c\t-d/e ---f".toList =
    [⟨3, 5⟩, ⟨9, 12⟩, ⟨13, 15⟩] := by
  decide +kernel

end BatchLens
