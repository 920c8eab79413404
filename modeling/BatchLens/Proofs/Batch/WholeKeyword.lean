import BatchLens.Proofs.Batch.KeywordHover
import BatchLens.Proofs.Pattern.Coverage

/-!
# Keywords are whole words

The names of the table are tried one after the other, some of them begin with another one, and a
match takes the white space in front of its keyword along. Still the search finds exactly the whole
words of the table (`findAll_keyword`): a name that is taken ends its word and is the only one at
its place (`WholeKeyword.unique`), and no match reaches over the white space in front of another
one (`Leads.back_eq_nil`).
-/

namespace BatchLens

open Pattern

/-! ## Names in any case -/

theorem Unicode.isWordChar_of_foldToAscii {c : Char}
    (folds : isWordChar (foldToAscii c) = true) : isWordChar c = true :=
  passes_of_foldToAscii (by decide +kernel) folds

/-- What folds to characters of words consists of such characters. -/
theorem Unicode.isWordChar_of_map {word letters : Text} (folds : word.map foldToAscii = letters)
    (areWordChars : letters.all isWordChar = true) : ∀ c ∈ word, isWordChar c = true := by
  intro c isIn
  apply isWordChar_of_foldToAscii
  apply List.all_eq_true.mp areWordChars
  rw [← folds]
  exact List.mem_map_of_mem isIn

namespace Hover.Spells

variable {entry : Keyword} {text sign name : Text}

theorem isWordChar (spells : Spells text sign name entry) :
    ∀ c ∈ name, Unicode.isWordChar c = true := by
  have areWordChars : ∀ name ∈ Keyword.names, name.all Unicode.isWordChar = true := by
    decide +kernel
  apply Unicode.isWordChar_of_map spells.folds
  exact areWordChars entry.name (List.mem_map_of_mem spells.isEntry)

theorem name_ne_nil (spells : Spells text sign name entry) : name ≠ [] := by
  apply Grammar.ne_nil_of_mem_names
  rw [spells.folds]
  exact List.mem_map_of_mem spells.isEntry

theorem text_ne_nil (spells : Spells text sign name entry) : text ≠ [] := by
  simp [spells.text_eq, spells.name_ne_nil]

end Hover.Spells

theorem Text.dropLeading_append {mark : Char} {text rest : Text} (nonempty : text ≠ []) :
    dropLeading mark (text ++ rest) = dropLeading mark text ++ rest := by
  cases text with
  | nil => exact absurd rfl nonempty
  | cons c others =>
      simp only [List.cons_append, dropLeading]
      split <;> rfl

namespace Grammar

/-- A text cut around a keyword: white space in front of it or nothing, the name of an entry in any
case, behind an at sign or not, and no further character of a word behind it. -/
structure WholeKeyword (before written behind : Text) : Prop where
  begins : ∀ c ∈ before.getLast?, Unicode.isWhiteSpace c = true
  spelled : ∃ sign name entry, Hover.Spells written sign name entry
  ends : ∀ c ∈ behind.head?, Unicode.isWordChar c = false

variable {before lead taken written behind : Text} {token : Option ByteRange}

/-! ## What the pattern takes -/

/-- What a match takes in front of its keyword: nothing at the start of a text, or else one
character of white space. -/
def Leads (before lead : Text) : Prop :=
  before = [] ∧ lead = [] ∨ ∃ c, Unicode.isWhiteSpace c = true ∧ lead = [c]

theorem Leads.isWhiteSpace (leads : Leads before lead) :
    ∀ c ∈ (before ++ lead).getLast?, Unicode.isWhiteSpace c = true := by
  rcases leads with ⟨rfl, rfl⟩ | ⟨c, space, rfl⟩
  · simp
  · simpa using space

theorem exists_wholeKeyword_of_takes (takes : keyword.Takes before taken behind token) :
    ∃ lead written, taken = lead ++ written ∧ Leads before lead ∧
      WholeKeyword (before ++ lead) written behind ∧
      token = some ⟨(before ++ lead).byteLen, (before ++ lead ++ written).byteLen⟩ := by
  rcases of_takes_keyword takes with ⟨lead, sign, name, rfl, leads, isSign, isName, ends, rfl⟩
  rcases List.mem_map.mp isName with ⟨entry, isEntry, same⟩
  have spells : Hover.Spells (sign ++ name) sign name entry := ⟨rfl, isSign, isEntry, same.symm⟩
  have noWord : ∀ c ∈ behind.head?, Unicode.isWordChar c = false := by
    rw [← List.append_assoc, ← List.append_assoc] at ends
    exact (Text.bordersWord_iff spells.name_ne_nil spells.isWordChar).mp ends
  refine ⟨lead, sign ++ name, rfl, leads, ⟨Leads.isWhiteSpace leads, ?_, noWord⟩, by simp⟩
  exact ⟨sign, name, entry, spells⟩

theorem WholeKeyword.takes (whole : WholeKeyword (before ++ lead) written behind)
    (leads : Leads before lead) :
    keyword.Takes before (lead ++ written) behind
      (some ⟨(before ++ lead).byteLen, (before ++ lead ++ written).byteLen⟩) := by
  rcases whole.spelled with ⟨sign, name, entry, spells⟩
  have ends : Text.BordersWord (before ++ (lead ++ written)) behind := by
    have nameEnds : Text.BordersWord (before ++ lead ++ sign ++ name) behind :=
      (Text.bordersWord_iff spells.name_ne_nil spells.isWordChar).mpr whole.ends
    simpa [spells.text_eq] using nameEnds
  have isName : word entry.name ∈ Keyword.names.map word :=
    List.mem_map_of_mem (List.mem_map_of_mem spells.isEntry)
  simp only [keyword, takes_append, takes_orElse, takes_textStart, takes_one, takes_token,
    takes_maybe, takes_char, takes_anyOf, takes_wordBoundary]
  refine ⟨lead ++ written, [], _, none, by simp, ⟨lead, written, none, _, rfl, ?_,
    ⟨⟨none, sign, name, none, none, spells.text_eq, ?_, ⟨_, isName, ?_⟩, rfl⟩, rfl⟩, rfl⟩,
    ⟨ends, rfl, rfl⟩, by simp⟩
  · rcases leads with ⟨rfl, rfl⟩ | ⟨c, space, rfl⟩
    · exact Or.inl ⟨rfl, rfl, rfl⟩
    · exact Or.inr ⟨c, space, rfl, rfl⟩
  · rcases spells.isSign with rfl | rfl
    · exact Or.inr ⟨rfl, rfl⟩
    · exact Or.inl ⟨rfl, rfl⟩
  · exact takes_word.mpr ⟨spells.folds, rfl⟩

/-! ## One keyword at a place -/

theorem WholeKeyword.isSolid (whole : WholeKeyword before written behind) :
    ∀ c ∈ written, isSolid c = true := by
  rcases whole.spelled with ⟨sign, name, entry, spells⟩
  intro c isIn
  simp [Grammar.isSolid, spells.not_isWhiteSpace c isIn]

theorem WholeKeyword.ne_nil (whole : WholeKeyword before written behind) : written ≠ [] := by
  rcases whole.spelled with ⟨sign, name, entry, spells⟩
  exact spells.text_ne_nil

theorem WholeKeyword.solid_head (whole : WholeKeyword before written behind) :
    ∀ c ∈ (written ++ behind).head?, Grammar.isSolid c = true := by
  intro c isHead
  rw [List.head?_append_of_ne_nil _ whole.ne_nil] at isHead
  exact whole.isSolid c (List.mem_of_mem_head? isHead)

/-- Of two names that begin at one place neither goes on behind the other. -/
theorem WholeKeyword.unique {before' written' behind' : Text}
    (whole : WholeKeyword before written behind) (whole' : WholeKeyword before' written' behind')
    (same : written ++ behind = written' ++ behind') : written = written' ∧ behind = behind' := by
  rcases whole.spelled with ⟨sign, name, entry, spells⟩
  rcases whole'.spelled with ⟨sign', name', entry', spells'⟩
  have names : name ++ behind = name' ++ behind' := by
    have dropped := congrArg (Text.dropLeading '@') same
    rwa [Text.dropLeading_append whole.ne_nil, Text.dropLeading_append whole'.ne_nil,
      spells.dropLeading_eq, spells'.dropLeading_eq] at dropped
  obtain ⟨_, rfl⟩ :=
    Text.run_inj names spells.isWordChar spells'.isWordChar whole.ends whole'.ends
  exact ⟨List.append_cancel_right same, rfl⟩

theorem Leads.isSpace (leads : Leads before lead) : ∀ c ∈ lead, Grammar.isSolid c = false := by
  rcases leads with ⟨_, rfl⟩ | ⟨c, space, rfl⟩
  · simp
  · simpa [Grammar.isSolid] using space

/-- No match reaches over the place at which another one begins: that place is the start of the
text, or white space stands there. -/
theorem Leads.back_eq_nil {front back more rest lead' written' : Text}
    (leads : Leads before lead)
    (reaches : keyword.Reaches before (lead ++ behind) front back more rest token)
    (parts : back ++ more = lead' ++ written') (leads' : Leads front lead')
    (whole' : WholeKeyword (front ++ lead') written' rest) : back = [] := by
  rcases leads with ⟨atStart, _⟩ | ⟨d, space, rfl⟩
  · have nothing := reaches.before_eq.symm.trans atStart
    exact (List.append_eq_nil_iff.mp nothing).2
  · have begins : ∀ c ∈ ([d] ++ behind).head?, Grammar.isSolid c = false := by
      simpa [Grammar.isSolid] using space
    apply reaches.back_eq_nil begins
    rw [parts]
    intro c isIn
    apply whole'.isSolid
    rcases leads' with ⟨_, rfl⟩ | ⟨d, _, rfl⟩
    · exact List.mem_of_mem_tail isIn
    · exact isIn

/-! ## What the search finds -/

theorem exists_wholeKeyword_of_mem_findAll {text : Text} {range : ByteRange}
    (found : range ∈ keyword.findAll text) :
    ∃ before written behind, text = before ++ written ++ behind ∧
      WholeKeyword before written behind ∧
      range = ⟨before.byteLen, (before ++ written).byteLen⟩ := by
  rcases exists_prefers_of_mem_findAll found with
    ⟨before, taken, behind, token, rfl, prefers, rfl⟩
  rcases exists_wholeKeyword_of_takes prefers.takes with ⟨lead, written, rfl, _, whole, rfl⟩
  exact ⟨before ++ lead, written, behind, by simp, whole, rfl⟩

theorem WholeKeyword.mem_findAll (whole : WholeKeyword before written behind) :
    ⟨before.byteLen, (before ++ written).byteLen⟩ ∈
      keyword.findAll (before ++ written ++ behind) := by
  obtain ⟨front, lead, rfl, leads⟩ : ∃ front lead, before = front ++ lead ∧ Leads front lead := by
    rcases List.eq_nil_or_concat before with rfl | ⟨front, c, rfl⟩
    · exact ⟨[], [], rfl, Or.inl ⟨rfl, rfl⟩⟩
    · exact ⟨front, [c], by simp, Or.inr ⟨c, whole.begins c (by simp), rfl⟩⟩
  have nonempty : lead ++ written ++ behind ≠ [] := by simp [whole.ne_nil]
  rcases exists_reaching_of_takes (whole.takes leads) nonempty with
    ⟨front', back, more, rest, token, reaches, found⟩
  rcases exists_wholeKeyword_of_takes reaches.prefers.takes with
    ⟨lead', written', parts, leads', whole', rfl⟩
  have cut := reaches.behind_eq
  rw [List.append_assoc] at reaches
  obtain rfl := leads.back_eq_nil reaches parts leads' whole'
  obtain rfl : front = front' := by simpa using reaches.before_eq
  have same : lead ++ (written ++ behind) = lead' ++ (written' ++ rest) := by
    rw [← List.append_assoc, cut, ← List.append_assoc, ← parts, List.nil_append]
  obtain ⟨rfl, sameRest⟩ := Text.cut_inj same leads.isSpace leads'.isSpace whole.solid_head
    whole'.solid_head
  obtain ⟨rfl, rfl⟩ := whole.unique whole' sameRest
  have ends : (pattern .keyword).ReportsToEnd := reportsToEnd_pattern (by decide)
  change _ ∈ (pattern .keyword).findAll _
  rw [ends.findAll_eq]
  simpa [reported, pattern] using found

end Grammar

open Grammar in
/-- The search for keywords finds exactly the whole words of the table, from left to right and each
of them once. -/
theorem findAll_keyword (text : Text) :
    (keyword.findAll text).Pairwise (fun left right => left.start < right.start) ∧
      ∀ range, range ∈ keyword.findAll text ↔
        ∃ before written behind, text = before ++ written ++ behind ∧
          WholeKeyword before written behind ∧
          range = ⟨before.byteLen, (before ++ written).byteLen⟩ := by
  constructor
  · apply (findAll_pairwise keyword text).imp_of_mem
    intro left right isLeft _ ordered
    have nonempty := start_lt_stop_of_mem_findAll isLeft
    omega
  · intro range
    constructor
    · exact exists_wholeKeyword_of_mem_findAll
    · rintro ⟨before, written, behind, rfl, whole, rfl⟩
      exact whole.mem_findAll

example : Grammar.keyword.findAll "comp compact  @REN renamed".toList =
    [⟨0, 4⟩, ⟨5, 12⟩, ⟨14, 18⟩] := by
  decide +kernel

end BatchLens
