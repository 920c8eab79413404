import BatchLens.Proofs.Checked.Hover

/-!
# References from left to right

References are expanded in parts of the text, cut at its percent signs. What comes out is what a
scan writes that goes through the text from left to right and looks at one character at a time
(`expand_eq_scan`): where a reference to a known name begins, it writes the value and goes on behind
the reference, and anywhere else it keeps the character.

A text can be divided in one way only into characters that are kept and references that are
replaced, such that no reference to a known name begins at a character that is kept
(`exists_divides`, `Divides.unique`). This is how the scan divides it.
-/

namespace BatchLens

namespace Text

theorem splitFirst?_eq_some_iff {mark : Char} {text before behind : Text} :
    text.splitFirst? mark = some (before, behind) ↔
      text = before ++ mark :: behind ∧ mark ∉ before := by
  constructor
  · intro split
    by_cases marked : mark ∈ text
    · rcases List.eq_append_cons_of_mem marked with ⟨front, back, rfl, free⟩
      rw [splitFirst?_append back free, Option.some.injEq, Prod.mk.injEq] at split
      rcases split with ⟨rfl, rfl⟩
      exact ⟨rfl, free⟩
    · rw [splitFirst?_of_not_mem marked] at split
      exact absurd split (by simp)
  · rintro ⟨rfl, free⟩
    exact splitFirst?_append behind free

end Text

namespace Reference

variable {lookup : Text → Option Text} {text name value behind rest : Text} {c : Char}

/-! ## References to known names -/

/-- Whether a text begins with a reference to a known name, which reaches up to the next percent
sign. -/
structure Opens (lookup : Text → Option Text) (text name value behind : Text) : Prop where
  text_eq : text = '%' :: (name ++ '%' :: behind)
  nameFree : '%' ∉ name
  name_ne_nil : name ≠ []
  isKnown : lookup name = some value

theorem Opens.length_lt (opens : Opens lookup text name value behind) :
    behind.length < text.length := by
  rw [opens.text_eq]
  simp only [List.length_cons, List.length_append]
  omega

/-- A text begins with one such reference at most. -/
theorem Opens.unique {name' value' behind' : Text} (opens : Opens lookup text name value behind)
    (opens' : Opens lookup text name' value' behind') :
    name = name' ∧ value = value' ∧ behind = behind' := by
  have first := Text.splitFirst?_append behind opens.nameFree
  have second := Text.splitFirst?_append behind' opens'.nameFree
  have same : name ++ '%' :: behind = name' ++ '%' :: behind' :=
    List.tail_eq_of_cons_eq (opens.text_eq.symm.trans opens'.text_eq)
  rw [same, second, Option.some.injEq, Prod.mk.injEq] at first
  rcases first with ⟨rfl, rfl⟩
  have known := opens.isKnown
  rw [opens'.isKnown, Option.some.injEq] at known
  exact ⟨rfl, known.symm, rfl⟩

/-- The reference to a known name that a text begins with: the value of the name, and the text
behind the reference. -/
def opening? (lookup : Text → Option Text) : Text → Option (Text × Text)
  | '%' :: rest =>
      match Text.splitFirst? '%' rest with
      | some (name, behind) =>
          if name = [] then none else (lookup name).map fun value => (value, behind)
      | none => none
  | _ => none

theorem opening?_eq_some_iff :
    opening? lookup text = some (value, behind) ↔
      ∃ name, Opens lookup text name value behind := by
  constructor
  · intro found
    unfold opening? at found
    split at found
    next rest =>
      split at found
      next name behind' split =>
        rcases Text.splitFirst?_eq_some_iff.mp split with ⟨rfl, nameFree⟩
        rw [Option.ite_none_left_eq_some, Option.map_eq_some_iff] at found
        rcases found with ⟨nonempty, _, isKnown, same⟩
        rw [Prod.mk.injEq] at same
        rcases same with ⟨rfl, rfl⟩
        exact ⟨name, rfl, nameFree, nonempty, isKnown⟩
      next => exact absurd found (by simp)
    next => exact absurd found (by simp)
  · rintro ⟨name, rfl, nameFree, nonempty, isKnown⟩
    simp only [opening?, Text.splitFirst?_append behind nameFree, if_neg nonempty, isKnown,
      Option.map_some]

theorem opening?_eq_none_iff :
    opening? lookup text = none ↔ ∀ name value behind, ¬Opens lookup text name value behind := by
  rw [Option.eq_none_iff_forall_ne_some]
  constructor
  · intro notFound name value behind opens
    exact notFound (value, behind) (opening?_eq_some_iff.mpr ⟨name, opens⟩)
  · rintro noReference ⟨value, behind⟩ found
    rcases opening?_eq_some_iff.mp found with ⟨name, opens⟩
    exact noReference name value behind opens

/-! ## The scan -/

theorem length_lt_of_opening? (found : opening? lookup text = some (value, behind)) :
    behind.length < text.length := by
  rcases opening?_eq_some_iff.mp found with ⟨name, opens⟩
  exact opens.length_lt

/-- The text as a scan expands it: a reference to a known name is replaced where it begins, and any
other character is kept. -/
def scan (lookup : Text → Option Text) : Text → Text
  | [] => []
  | c :: rest =>
      match _found : opening? lookup (c :: rest) with
      | some (value, behind) => value ++ scan lookup behind
      | none => c :: scan lookup rest
termination_by text => text.length
decreasing_by
  · exact length_lt_of_opening? ‹_›
  · exact Nat.lt_succ_self _

theorem scan_of_opens (opens : Opens lookup text name value behind) :
    scan lookup text = value ++ scan lookup behind := by
  have found := opening?_eq_some_iff.mpr ⟨name, opens⟩
  rw [opens.text_eq] at found ⊢
  rw [scan]
  split
  next value' behind' found' =>
    rw [found, Option.some.injEq, Prod.mk.injEq] at found'
    rw [found'.1, found'.2]
  next notFound =>
    rw [found] at notFound
    exact absurd notFound (by simp)

theorem scan_cons_of_not_opens
    (noReference : ∀ name value behind, ¬Opens lookup (c :: rest) name value behind) :
    scan lookup (c :: rest) = c :: scan lookup rest := by
  have notFound := opening?_eq_none_iff.mpr noReference
  rw [scan]
  split
  next found =>
    rw [notFound] at found
    exact absurd found (by simp)
  next => rfl

/-! ## The expansion, one step of the scan at a time -/

theorem expand_mark (lookup : Text → Option Text) (behind : Text) (nameFree : '%' ∉ name) :
    expand lookup ('%' :: (name ++ '%' :: behind)) =
      match value? lookup name with
      | some value => value ++ expand lookup behind
      | none => '%' :: name ++ expand lookup ('%' :: behind) :=
  expand_reference List.not_mem_nil nameFree

theorem expand_of_opens (opens : Opens lookup text name value behind) :
    expand lookup text = value ++ expand lookup behind := by
  have known : value? lookup name = some value := by
    rw [value?, if_neg (by simpa using opens.name_ne_nil), opens.isKnown]
  rw [opens.text_eq, expand_mark lookup behind opens.nameFree, known]

theorem expand_cons_of_ne (other : c ≠ '%') :
    expand lookup (c :: rest) = c :: expand lookup rest := by
  have differs : (c == '%') = false := by simpa using other
  rcases List.exists_cons_of_ne_nil (Text.split_ne_nil '%' rest) with ⟨first, parts, restParts⟩
  simp [expand, Text.split, differs, restParts]

theorem expand_append_of_not_mem (free : '%' ∉ name) (rest : Text) :
    expand lookup (name ++ rest) = name ++ expand lookup rest := by
  induction name with
  | nil => rfl
  | cons c others ih =>
      simp only [List.mem_cons, not_or] at free
      rw [List.cons_append, expand_cons_of_ne (Ne.symm free.1), ih free.2, List.cons_append]

/-- A percent sign that opens no reference is kept, and the one behind it may still open one. -/
theorem expand_cons_of_not_opens
    (noReference : ∀ name value behind, ¬Opens lookup (c :: rest) name value behind) :
    expand lookup (c :: rest) = c :: expand lookup rest := by
  by_cases isMark : c = '%'
  · subst isMark
    by_cases closes : '%' ∈ rest
    · rcases List.eq_append_cons_of_mem closes with ⟨name, behind, rfl, nameFree⟩
      have unknown : value? lookup name = none := by
        rw [value?, ite_eq_left_iff, Option.eq_none_iff_forall_ne_some]
        intro nonempty value isKnown
        exact noReference name value behind ⟨rfl, nameFree, by simpa using nonempty, isKnown⟩
      rw [expand_append_of_not_mem nameFree, expand_mark lookup behind nameFree, unknown]
      rfl
    · rw [expand_of_not_mem closes]
      exact expand_unclosed (List.not_mem_nil (a := '%')) closes
  · exact expand_cons_of_ne isMark

/-! ## How the scan divides a text -/

/-- A part of a text that is expanded: a character that is kept, or a reference that is replaced by
the value of its name. -/
inductive Piece where
  | kept (c : Char)
  | replaced (name value : Text)

namespace Piece

/-- What stands in the text. -/
def spelling : Piece → Text
  | .kept c => [c]
  | .replaced name _ => '%' :: (name ++ ['%'])

/-- What is written for it. -/
def expansion : Piece → Text
  | .kept c => [c]
  | .replaced _ value => value

end Piece

/-- Whether pieces are those into which the scan divides a text: they spell the text, only
references to known names are replaced, and none begins at a character that is kept. -/
structure Divides (lookup : Text → Option Text) (pieces : List Piece) (text : Text) : Prop where
  spells : pieces.flatMap Piece.spelling = text
  isKnown : ∀ name value, Piece.replaced name value ∈ pieces →
    '%' ∉ name ∧ name ≠ [] ∧ lookup name = some value
  isLeftmost : ∀ earlier c later, pieces = earlier ++ Piece.kept c :: later →
    ∀ name value behind, ¬Opens lookup (c :: later.flatMap Piece.spelling) name value behind

variable {pieces other : List Piece}

theorem divides_nil : Divides lookup [] text ↔ text = [] := by
  constructor
  · intro divides
    exact divides.spells.symm
  · rintro rfl
    exact ⟨rfl, by simp, by simp⟩

theorem Divides.of_cons {piece : Piece} (divides : Divides lookup (piece :: pieces) text) :
    Divides lookup pieces (pieces.flatMap Piece.spelling) := by
  refine ⟨rfl, ?_, ?_⟩
  · intro name value isPiece
    exact divides.isKnown name value (List.mem_cons_of_mem _ isPiece)
  · rintro earlier c later rfl
    exact divides.isLeftmost (piece :: earlier) c later rfl

theorem divides_kept_iff :
    Divides lookup (.kept c :: pieces) text ↔
      ∃ rest, text = c :: rest ∧
        (∀ name value behind, ¬Opens lookup (c :: rest) name value behind) ∧
        Divides lookup pieces rest := by
  constructor
  · intro divides
    exact ⟨_, divides.spells.symm, divides.isLeftmost [] c pieces rfl, divides.of_cons⟩
  · rintro ⟨rest, rfl, noReference, divides⟩
    refine ⟨?_, ?_, ?_⟩
    · simp [Piece.spelling, divides.spells]
    · intro name value isPiece
      exact divides.isKnown name value (by simpa using isPiece)
    · intro earlier d later split
      rcases List.cons_eq_append_iff.mp split with ⟨rfl, same⟩ | ⟨earlier, rfl, rfl⟩
      · simp only [List.cons.injEq, Piece.kept.injEq] at same
        rcases same with ⟨rfl, rfl⟩
        rwa [divides.spells]
      · exact divides.isLeftmost earlier d later rfl

theorem divides_replaced_iff :
    Divides lookup (.replaced name value :: pieces) text ↔
      ∃ behind, Opens lookup text name value behind ∧ Divides lookup pieces behind := by
  constructor
  · intro divides
    rcases divides.isKnown name value List.mem_cons_self with ⟨nameFree, nonempty, isKnown⟩
    have spells := divides.spells.symm
    simp only [List.flatMap_cons, Piece.spelling, List.cons_append, List.append_assoc] at spells
    exact ⟨_, ⟨spells, nameFree, nonempty, isKnown⟩, divides.of_cons⟩
  · rintro ⟨behind, opens, divides⟩
    refine ⟨?_, ?_, ?_⟩
    · simp [Piece.spelling, divides.spells, opens.text_eq]
    · intro name' value' isPiece
      rcases List.mem_cons.mp isPiece with same | isLater
      · rw [Piece.replaced.injEq] at same
        rw [same.1, same.2]
        exact ⟨opens.nameFree, opens.name_ne_nil, opens.isKnown⟩
      · exact divides.isKnown name' value' isLater
    · intro earlier d later split
      rcases List.cons_eq_append_iff.mp split with ⟨rfl, same⟩ | ⟨earlier, rfl, rfl⟩
      · simp at same
      · exact divides.isLeftmost earlier d later rfl

theorem exists_divides (lookup : Text → Option Text) (text : Text) :
    ∃ pieces, Divides lookup pieces text := by
  induction length : text.length using Nat.strongRecOn generalizing text with
  | _ length ih =>
      subst length
      cases text with
      | nil => exact ⟨[], divides_nil.mpr rfl⟩
      | cons c rest =>
          by_cases opens : ∃ name value behind, Opens lookup (c :: rest) name value behind
          · rcases opens with ⟨name, value, behind, opens⟩
            rcases ih _ opens.length_lt behind rfl with ⟨pieces, divides⟩
            exact ⟨_, divides_replaced_iff.mpr ⟨behind, opens, divides⟩⟩
          · rcases ih _ (Nat.lt_succ_self _) rest rfl with ⟨pieces, divides⟩
            simp only [not_exists] at opens
            exact ⟨_, divides_kept_iff.mpr ⟨rest, rfl, opens, divides⟩⟩

/-- The division is determined from its first piece on: where a reference to a known name begins,
it is replaced. -/
theorem Divides.unique (divides : Divides lookup pieces text)
    (divides' : Divides lookup other text) : other = pieces := by
  induction pieces generalizing text other with
  | nil =>
      obtain rfl := divides_nil.mp divides
      cases other with
      | nil => rfl
      | cons piece others =>
          have spells := divides'.spells
          cases piece <;> simp [Piece.spelling] at spells
  | cons piece pieces ih =>
      cases piece with
      | kept c =>
          rcases divides_kept_iff.mp divides with ⟨rest, rfl, noReference, restDivides⟩
          rcases other with _ | ⟨_ | _, others⟩
          · exact absurd (divides_nil.mp divides') (by simp)
          · rcases divides_kept_iff.mp divides' with ⟨rest', same, _, restDivides'⟩
            rw [List.cons.injEq] at same
            rcases same with ⟨rfl, rfl⟩
            rw [ih restDivides restDivides']
          · rcases divides_replaced_iff.mp divides' with ⟨behind, opens, _⟩
            exact absurd opens (noReference _ _ _)
      | replaced name value =>
          rcases divides_replaced_iff.mp divides with ⟨behind, opens, behindDivides⟩
          rcases other with _ | ⟨_ | _, others⟩
          · have nothing := opens.length_lt
            rw [divides_nil.mp divides'] at nothing
            exact absurd nothing (Nat.not_lt_zero _)
          · rcases divides_kept_iff.mp divides' with ⟨rest, rfl, noReference, _⟩
            exact absurd opens (noReference _ _ _)
          · rcases divides_replaced_iff.mp divides' with ⟨behind', opens', behindDivides'⟩
            rcases opens.unique opens' with ⟨rfl, rfl, rfl⟩
            rw [ih behindDivides behindDivides']

/-- What both the scan and the expansion write for a text is what its pieces expand to. -/
theorem Divides.expansion_eq (divides : Divides lookup pieces text) :
    scan lookup text = pieces.flatMap Piece.expansion ∧
      expand lookup text = pieces.flatMap Piece.expansion := by
  induction pieces generalizing text with
  | nil =>
      rw [divides_nil.mp divides, scan]
      exact ⟨rfl, rfl⟩
  | cons piece pieces ih =>
      cases piece with
      | kept c =>
          rcases divides_kept_iff.mp divides with ⟨rest, rfl, noReference, restDivides⟩
          rcases ih restDivides with ⟨scanned, expanded⟩
          rw [scan_cons_of_not_opens noReference, expand_cons_of_not_opens noReference, scanned,
            expanded]
          exact ⟨rfl, rfl⟩
      | replaced name value =>
          rcases divides_replaced_iff.mp divides with ⟨behind, opens, behindDivides⟩
          rcases ih behindDivides with ⟨scanned, expanded⟩
          rw [scan_of_opens opens, expand_of_opens opens, scanned, expanded]
          exact ⟨rfl, rfl⟩

/-- Where no name is known, every character is kept. -/
theorem expand_of_unknown (unknown : ∀ name, lookup name = none) (text : Text) :
    expand lookup text = text := by
  rcases exists_divides lookup text with ⟨pieces, divides⟩
  rw [divides.expansion_eq.2]
  have unchanged : ∀ piece ∈ pieces, piece.expansion = piece.spelling := by
    intro piece isPiece
    cases piece with
    | kept c => rfl
    | replaced name value =>
        have isKnown := (divides.isKnown name value isPiece).2.2
        rw [unknown name] at isKnown
        exact absurd isKnown (by simp)
  calc
    pieces.flatMap Piece.expansion = pieces.flatMap Piece.spelling :=
      List.flatMap_congr unchanged
    _ = text := divides.spells

/-- References are expanded as the scan does it, which ends for every text, and so does the loop
that cuts off one part of the text after the other. The references that are replaced are those of
the one division in which none is passed over, and all else is kept; where no name is known, all of
the text is. -/
theorem expand_eq_scan (lookup : Text → Option Text) (text : Text) :
    expand lookup text = scan lookup text ∧
      Checked.expand lookup text = .ok (scan lookup text) ∧
      (∃ pieces, Divides lookup pieces text ∧
        expand lookup text = pieces.flatMap Piece.expansion ∧
        ∀ other, Divides lookup other text → other = pieces) ∧
      expand (fun _ => none) text = text := by
  rcases exists_divides lookup text with ⟨pieces, divides⟩
  rcases divides.expansion_eq with ⟨scanned, expanded⟩
  refine ⟨?_, ?_, ?_, ?_⟩
  · rw [expanded, scanned]
  · rw [Checked.expand_eq, expanded, scanned]
  · exact ⟨pieces, divides, expanded, fun _ => divides.unique⟩
  · exact expand_of_unknown (fun _ => rfl) text

/-- The percent sign behind an unknown name opens a reference, and the value of that is not looked
at again. -/
example :
    expand (fun name => if name = "A".toList then some "%B%".toList else none)
      "x%y%A%B%".toList = "x%y%B%B%".toList := by
  decide

end Reference

end BatchLens
