import Mathlib.Data.List.Nodup
import BatchLens.Batch.Keyword
import BatchLens.Proofs.Unicode.Letters

/-!
# The table of keywords

The names of the keywords are different and consist of small letters. So an entry is found by its
name in any case, and by no other name (`find?_of_mem`, `isKeyword_iff`). In lower case a name that
folds to the name of an entry is that name, unless it has a long s (`describe?_lowercase`).
-/

namespace BatchLens

namespace Keyword

variable {entry other : Keyword} {name : Text}

theorem nodup_names : names.Nodup := by decide +kernel

theorem eq_of_name_eq (isEntry : entry ∈ table) (isOther : other ∈ table)
    (same : entry.name = other.name) : entry = other :=
  List.inj_on_of_nodup_map nodup_names isEntry isOther same

theorem isLower_of_mem_table (isEntry : entry ∈ table) : ∀ c ∈ entry.name, c.isLower = true := by
  have areSmall : ∀ name ∈ names, name.all Char.isLower = true := by decide +kernel
  exact List.all_eq_true.mp (areSmall entry.name (List.mem_map_of_mem isEntry))

theorem isLower_of_folds (isEntry : entry ∈ table)
    (folds : name.map Unicode.foldToAscii = entry.name) :
    ∀ c ∈ name, (Unicode.foldToAscii c).isLower = true := by
  intro c isIn
  apply isLower_of_mem_table isEntry
  rw [← folds]
  exact List.mem_map_of_mem isIn

theorem asciiLower_of_mem_table (isEntry : entry ∈ table) :
    Text.asciiLower entry.name = entry.name := by
  calc
    entry.name.map Char.toLower = entry.name.map id := by
      apply List.map_congr_left
      intro c isIn
      exact Unicode.toLower_of_isLower (isLower_of_mem_table isEntry c isIn)
    _ = entry.name := List.map_id entry.name

theorem find?_of_mem (isEntry : entry ∈ table) : find? entry.name = some entry := by
  have isSmall := asciiLower_of_mem_table isEntry
  cases found : find? entry.name with
  | none =>
      have noName := List.find?_eq_none.mp found entry isEntry
      rw [isSmall, beq_self_eq_true] at noName
      exact absurd rfl noName
  | some other =>
      have same := List.find?_some found
      rw [isSmall, beq_iff_eq] at same
      rw [eq_of_name_eq (List.mem_of_find?_eq_some found) isEntry same]

theorem isKeyword_iff :
    isKeyword name = true ↔
      ∃ entry ∈ table, Text.sameIgnoringAsciiCase name entry.name = true := by
  rw [isKeyword, find?, List.find?_isSome]
  apply exists_congr
  intro entry
  apply and_congr_right
  intro isEntry
  rw [Text.sameIgnoringAsciiCase, asciiLower_of_mem_table isEntry, beq_iff_eq, beq_iff_eq]
  exact eq_comm

/-- A text with a long s has the name of no keyword. -/
theorem find?_of_longS (longS : 'ſ' ∈ name) : find? name = none := by
  rw [find?, List.find?_eq_none]
  intro entry isEntry
  rw [beq_iff_eq]
  intro same
  have inName : 'ſ' ∈ entry.name := by
    rw [same]
    exact List.mem_map.mpr ⟨'ſ', longS, rfl⟩
  exact absurd (isLower_of_mem_table isEntry 'ſ' inName) (by decide)

theorem describe?_lowercase (isEntry : entry ∈ table)
    (folds : name.map Unicode.foldToAscii = entry.name) :
    describe? (Unicode.lowercase name) = if 'ſ' ∈ name then none else some entry.description := by
  rw [describe?, Unicode.lowercase,
    Unicode.lowercaseAfter_of_foldToAscii (isLower_of_folds isEntry folds)]
  split
  next longS =>
    rw [find?_of_longS (List.mem_map.mpr ⟨'ſ', longS, rfl⟩)]
    rfl
  next noLongS =>
    have same : name.map Unicode.smallLetterOf = entry.name := by
      rw [← folds]
      apply List.map_congr_left
      intro c isIn
      apply if_neg
      rintro rfl
      exact noLongS isIn
    rw [same, find?_of_mem isEntry]
    rfl

/-- The lower case of a name that folds to the name of an entry has no capital letters left. -/
theorem asciiLower_lowercase (isEntry : entry ∈ table)
    (folds : name.map Unicode.foldToAscii = entry.name) :
    Text.asciiLower (Unicode.lowercase name) = Unicode.lowercase name := by
  have areLetters := isLower_of_folds isEntry folds
  rw [Unicode.lowercase, Unicode.lowercaseAfter_of_foldToAscii areLetters, Text.asciiLower,
    List.map_map]
  apply List.map_congr_left
  intro c isIn
  rw [Function.comp_apply, Unicode.smallLetterOf]
  split
  next => decide
  next => exact Unicode.toLower_of_isLower (areLetters c isIn)

theorem find?_eq_some_iff (isSmall : Text.asciiLower name = name) :
    find? name = some entry ↔ entry ∈ table ∧ entry.name = name := by
  constructor
  · intro found
    have same := List.find?_some found
    rw [isSmall, beq_iff_eq] at same
    exact ⟨List.mem_of_find?_eq_some found, same⟩
  · rintro ⟨isEntry, rfl⟩
    exact find?_of_mem isEntry

end Keyword

end BatchLens
