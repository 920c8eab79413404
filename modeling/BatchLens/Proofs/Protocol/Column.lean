import BatchLens.Proofs.Text.Cut
import BatchLens.Protocol.Position

/-!
# Columns

The units of a text, counted without any bound, and what the counts of 32 bits make of them. As
long as a line takes fewer than 2^32 units, nothing wraps and nothing saturates: counting the units
in front of a boundary and looking for that column lead back to the boundary
(`byteOfColumn_columnUnits`). Looking for a column goes wrong only for the greatest number of
32 bits, at which the search never stops before the end of the line
(`byteOfColumn_greatest`).
-/

namespace BatchLens

namespace PositionEncoding

variable (encoding : PositionEncoding)

/-- The units that a character takes in each encoding. -/
def width : PositionEncoding → Char → Nat
  | utf8, c => c.utf8Size
  | utf16, c => if c.toNat < 0x10000 then 1 else 2
  | utf32, _ => 1

/-- The units that a text takes, however many they are. -/
def unitCount : Text → Nat
  | [] => 0
  | c :: rest => encoding.width c + unitCount rest

@[simp]
theorem unitCount_nil : encoding.unitCount [] = 0 := rfl

@[simp]
theorem unitCount_cons (c : Char) (rest : Text) :
    encoding.unitCount (c :: rest) = encoding.width c + encoding.unitCount rest := rfl

@[simp]
theorem unitCount_append (left right : Text) :
    encoding.unitCount (left ++ right) = encoding.unitCount left + encoding.unitCount right := by
  induction left with
  | nil => simp
  | cons c rest ih => rw [List.cons_append, unitCount_cons, unitCount_cons, ih, Nat.add_assoc]

theorem unitCount_replicate (count : Nat) (c : Char) :
    encoding.unitCount (List.replicate count c) = count * encoding.width c := by
  induction count with
  | zero => simp
  | succ count ih => rw [List.replicate_succ, unitCount_cons, ih, Nat.succ_mul, Nat.add_comm]

theorem width_pos (c : Char) : 0 < encoding.width c := by
  cases encoding with
  | utf8 => exact c.utf8Size_pos
  | utf16 => simp only [width]; split <;> omega
  | utf32 => exact Nat.one_pos

/-- Only the empty text takes no units. -/
theorem unitCount_pos {text : Text} (nonempty : text ≠ []) : 0 < encoding.unitCount text := by
  cases text with
  | nil => exact absurd rfl nonempty
  | cons c rest =>
      have := encoding.width_pos c
      rw [unitCount_cons]
      omega

theorem toNat_units (c : Char) : (encoding.units c).toNat = encoding.width c := by
  cases encoding with
  | utf8 =>
      have := c.utf8Size_le_four
      simp only [units, width, UInt32.toNat_ofNat']
      omega
  | utf16 => simp only [units, width]; split <;> rfl
  | utf32 => rfl

/-! ## Counting -/

theorem toNat_foldl_units (text : Text) (total : UInt32) :
    (text.foldl (fun total c => total + encoding.units c) total).toNat =
      (total.toNat + encoding.unitCount text) % 0x100000000 := by
  induction text generalizing total with
  | nil => simp [Nat.mod_eq_of_lt total.toNat_lt]
  | cons c rest ih =>
      rw [List.foldl_cons, ih, UInt32.toNat_add, toNat_units, unitCount_cons, Nat.mod_add_mod,
        Nat.add_assoc]

/-- Counting wraps around. -/
theorem toNat_columnUnits (text : Text) :
    (encoding.columnUnits text).toNat = encoding.unitCount text % 0x100000000 := by
  rw [columnUnits, toNat_foldl_units, UInt32.toNat_zero, Nat.zero_add]

theorem toNat_columnUnits_of_lt (text : Text) (small : encoding.unitCount text < 0x100000000) :
    (encoding.columnUnits text).toNat = encoding.unitCount text := by
  rw [toNat_columnUnits, Nat.mod_eq_of_lt small]

/-! ## Looking for a column -/

theorem toNat_saturatingAdd (left right : UInt32) :
    (saturatingAdd left right).toNat = min (left.toNat + right.toNat) 0xFFFFFFFF := by
  rw [saturatingAdd]
  split
  · rw [UInt32.toNat_add]
    omega
  · have := left.toNat_lt
    have := right.toNat_lt
    simp only [UInt32.reduceToNat]
    omega

/-- A boundary is found by the units in front of it. Where more of the line follows, its column
must not be the greatest number. -/
theorem bytesToColumn_append {column passed : UInt32} {before behind : Text}
    (reached : passed.toNat + encoding.unitCount before = column.toNat)
    (bounded : behind ≠ [] → column.toNat < 0xFFFFFFFF) :
    encoding.bytesToColumn column passed (before ++ behind) = before.byteLen := by
  have columnSmall := column.toNat_lt
  induction before generalizing passed with
  | nil =>
      cases behind with
      | nil => rfl
      | cons c rest =>
          have small := bounded (by simp)
          have positive := encoding.width_pos c
          have stops : column < saturatingAdd passed (encoding.units c) := by
            rw [UInt32.lt_iff_toNat_lt, toNat_saturatingAdd, toNat_units]
            simp only [unitCount_nil] at reached
            omega
          simp [bytesToColumn, stops]
  | cons c rest ih =>
      rw [unitCount_cons] at reached
      have next : (saturatingAdd passed (encoding.units c)).toNat =
          passed.toNat + encoding.width c := by
        rw [toNat_saturatingAdd, toNat_units]
        omega
      have goesOn : ¬column < saturatingAdd passed (encoding.units c) := by
        rw [UInt32.lt_iff_toNat_lt, next]
        omega
      rw [List.cons_append, bytesToColumn]
      simp only [goesOn, if_false]
      rw [ih (by rw [next]; omega), Text.byteLen_cons]

theorem byteOfColumn_append {column : UInt32} {before behind : Text}
    (reached : encoding.unitCount before = column.toNat)
    (bounded : behind ≠ [] → column.toNat < 0xFFFFFFFF) :
    encoding.byteOfColumn (before ++ behind) column = before.byteLen :=
  encoding.bytesToColumn_append (by simpa using reached) bounded

/-- In a line of fewer than 2^32 units every boundary is found by the units counted in front of
it. -/
theorem byteOfColumn_columnUnits {before behind : Text}
    (small : encoding.unitCount (before ++ behind) < 0x100000000) :
    encoding.byteOfColumn (before ++ behind) (encoding.columnUnits before) = before.byteLen := by
  rw [unitCount_append] at small
  have counted := encoding.toNat_columnUnits_of_lt before (by omega)
  apply encoding.byteOfColumn_append counted.symm
  intro more
  have := encoding.unitCount_pos more
  omega

theorem bytesToColumn_greatest (passed : UInt32) (line : Text) :
    encoding.bytesToColumn 0xFFFFFFFF passed line = line.byteLen := by
  induction line generalizing passed with
  | nil => rfl
  | cons c rest ih =>
      have goesOn : ¬0xFFFFFFFF < saturatingAdd passed (encoding.units c) := by
        rw [UInt32.lt_iff_toNat_lt, toNat_saturatingAdd]
        simp only [UInt32.reduceToNat]
        omega
      rw [bytesToColumn]
      simp only [goesOn, if_false, ih, Text.byteLen_cons]

/-- The greatest column leads to the end of the line, however long that is. -/
theorem byteOfColumn_greatest (line : Text) :
    encoding.byteOfColumn line 0xFFFFFFFF = line.byteLen :=
  encoding.bytesToColumn_greatest 0 line

theorem exists_cut_bytesToColumn (column passed : UInt32) (line : Text) :
    ∃ before behind, line = before ++ behind ∧
      encoding.bytesToColumn column passed line = before.byteLen := by
  induction line generalizing passed with
  | nil => exact ⟨[], [], rfl, rfl⟩
  | cons c rest ih =>
      rw [bytesToColumn]
      by_cases stops : column < saturatingAdd passed (encoding.units c)
      · exact ⟨[], c :: rest, rfl, by simp [stops]⟩
      · rcases ih (saturatingAdd passed (encoding.units c)) with ⟨before, behind, rfl, found⟩
        exact ⟨c :: before, behind, rfl, by simp [stops, found]⟩

theorem exists_cut_byteOfColumn (column : UInt32) (line : Text) :
    ∃ before behind, line = before ++ behind ∧
      encoding.byteOfColumn line column = before.byteLen :=
  encoding.exists_cut_bytesToColumn column 0 line

/-- The units in front of what is found do not exceed a column that is not the greatest number. -/
theorem unitCount_le_of_bytesToColumn {column passed : UInt32} {before behind : Text}
    (bounded : column.toNat < 0xFFFFFFFF) (reached : passed.toNat ≤ column.toNat)
    (found : encoding.bytesToColumn column passed (before ++ behind) = before.byteLen) :
    passed.toNat + encoding.unitCount before ≤ column.toNat := by
  induction before generalizing passed with
  | nil => simpa using reached
  | cons c rest ih =>
      have positive := c.utf8Size_pos
      rw [List.cons_append, bytesToColumn, Text.byteLen_cons] at found
      split at found
      next => omega
      next goesOn =>
        rw [UInt32.lt_iff_toNat_lt, toNat_saturatingAdd, toNat_units] at goesOn
        have next : (saturatingAdd passed (encoding.units c)).toNat =
            passed.toNat + encoding.width c := by
          rw [toNat_saturatingAdd, toNat_units]
          omega
        have counted := ih (by rw [next]; omega) (Nat.add_left_cancel found)
        rw [next] at counted
        rw [unitCount_cons]
        omega

/-- A character of one unit that is inserted where a column was found lies behind that column, or in
front of it if less than one more unit of the line does. -/
theorem bytesToColumn_insert {column passed : UInt32} {before behind : Text} {new : Char}
    (narrow : encoding.width new = 1)
    (found : encoding.bytesToColumn column passed (before ++ behind) = before.byteLen) :
    encoding.bytesToColumn column passed (before ++ new :: behind) = before.byteLen ∨
      encoding.bytesToColumn column passed (before ++ new :: behind) = (before ++ [new]).byteLen ∧
        ∀ c ∈ behind.head?, 1 < encoding.width c := by
  induction before generalizing passed with
  | nil =>
      rw [List.nil_append, bytesToColumn]
      by_cases stops : column < saturatingAdd passed (encoding.units new)
      · left
        simp [stops]
      · right
        cases behind with
        | nil => simp [stops, bytesToColumn]
        | cons c others =>
            have positive := c.utf8Size_pos
            rw [List.nil_append, bytesToColumn, Text.byteLen_nil] at found
            split at found
            next stopped =>
              rw [UInt32.lt_iff_toNat_lt, toNat_saturatingAdd, toNat_units] at stops stopped
              have stopsNext : column < saturatingAdd (saturatingAdd passed (encoding.units new))
                  (encoding.units c) := by
                rw [UInt32.lt_iff_toNat_lt, toNat_saturatingAdd, toNat_saturatingAdd, toNat_units,
                  toNat_units]
                omega
              have goesOn : ¬column < saturatingAdd passed (encoding.units new) := by
                rw [UInt32.lt_iff_toNat_lt, toNat_saturatingAdd, toNat_units]
                exact stops
              constructor
              · simp [goesOn, bytesToColumn, stopsNext]
              · simp only [List.head?_cons, Option.mem_some_iff, forall_eq']
                omega
            next => omega
  | cons c others ih =>
      have positive := c.utf8Size_pos
      rw [List.cons_append, bytesToColumn, Text.byteLen_cons] at found
      rw [List.cons_append, bytesToColumn]
      split at found
      next => omega
      next goesOn =>
        rw [if_neg goesOn]
        rcases ih (Nat.add_left_cancel found) with inFront | ⟨behindNew, wide⟩
        · left
          rw [inFront, Text.byteLen_cons]
        · right
          rw [behindNew, List.cons_append, Text.byteLen_cons]
          exact ⟨rfl, wide⟩

end PositionEncoding

end BatchLens
