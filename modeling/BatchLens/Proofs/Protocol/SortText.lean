import Mathlib.Algebra.Group.Nat.Defs
import Mathlib.Data.List.Nodup
import BatchLens.Proofs.Text.Order
import BatchLens.Protocol.Answer

/-!
# The order of offered items

An editor puts the items that it is offered into the order of their texts to sort by. Below one
hundred thousand these are the numbers of the items in exactly five digits (`sortText_eq`), and
numbers of equally many digits are in the order of their digits (`lastDigits_lt_lastDigits`). The
next number takes six digits and comes before most of the others. So the texts keep the order of
the items exactly up to one hundred thousand items (`offeredItems_in_order_iff`).
-/

namespace BatchLens

/-- The last decimal digits of a number, as many as are wanted. -/
def lastDigits : Nat → Nat → Text
  | 0, _ => []
  | width + 1, index => lastDigits width (index / 10) ++ [Nat.digitChar (index % 10)]

theorem length_lastDigits (width index : Nat) : (lastDigits width index).length = width := by
  induction width generalizing index with
  | zero => rfl
  | succ width ih => simp [lastDigits, ih]

theorem digitChar_lt_digitChar {first second : Nat} (smaller : first < second)
    (isDigit : second < 10) : Nat.digitChar first < Nat.digitChar second := by
  have isLower : (Nat.digitChar first).toNat < (Nat.digitChar second).toNat := by
    rw [Nat.toNat_digitChar_of_lt_ten isDigit, Nat.toNat_digitChar_of_lt_ten (by omega)]
    omega
  exact isLower

theorem lastDigits_lt_lastDigits {width first second : Nat} (smaller : first < second)
    (fits : second < 10 ^ width) : lastDigits width first < lastDigits width second := by
  induction width generalizing first second with
  | zero =>
      rw [Nat.pow_zero] at fits
      omega
  | succ width ih =>
      have quotientFits : second / 10 < 10 ^ width := by
        rw [Nat.pow_succ] at fits
        omega
      simp only [lastDigits]
      by_cases sameQuotient : first / 10 = second / 10
      · rw [sameQuotient]
        apply List.append_left_lt
        apply List.Lex.rel
        apply digitChar_lt_digitChar <;> omega
      · apply Text.append_lt_append
        · apply ih _ quotientFits
          omega
        · simp only [length_lastDigits]

/-- Zeros in front make up for the digits that a number does not have. -/
theorem zeros_append_ofNat {width index : Nat} (someDigits : 0 < width)
    (fits : index < 10 ^ width) :
    List.replicate (width - (Text.ofNat index).length) '0' ++ Text.ofNat index =
      lastDigits width index := by
  induction width, someDigits using Nat.le_induction generalizing index with
  | base =>
      have isDigit : index < 10 := by simpa using fits
      simp [Text.ofNat, Nat.toDigits_of_lt_base isDigit, lastDigits, Nat.mod_eq_of_lt isDigit]
  | succ width someDigits ih =>
      have quotientFits : index / 10 < 10 ^ width := by
        rw [Nat.pow_succ] at fits
        omega
      rw [lastDigits, ← ih quotientFits]
      by_cases isDigit : index < 10
      · have noMore : index / 10 = 0 := by omega
        have zeros : width = width - 1 + 1 := by omega
        rw [noMore]
        simp only [Text.ofNat, Nat.toDigits_of_lt_base isDigit, Nat.mod_eq_of_lt isDigit,
          Nat.toDigits_zero, List.length_singleton, Nat.add_sub_cancel]
        rw [zeros, List.replicate_succ']
        simp
      · have longer : Text.ofNat index =
            Text.ofNat (index / 10) ++ [Nat.digitChar (index % 10)] :=
          Nat.toDigits_of_base_le (by omega) (by omega)
        rw [longer]
        simp

theorem sortText_eq {index : Nat} (fits : index < 100000) : sortText index = lastDigits 5 index :=
  zeros_append_ofNat (by omega) fits

theorem sortText_lt_sortText {first second : Nat} (smaller : first < second)
    (fits : second < 100000) : sortText first < sortText second := by
  rw [sortText_eq fits, sortText_eq (by omega)]
  exact lastDigits_lt_lastDigits smaller fits

/-- The first number of six digits comes before the last one of five. -/
theorem not_sortText_lt_sortText : ¬sortText 99999 < sortText 100000 := by decide +kernel

namespace Document

variable {document : Document} {encoding : PositionEncoding} {set : CompletionSet}

theorem length_offeredItems : (document.offeredItems encoding set).length = set.items.length := by
  simp [offeredItems]

theorem sortText_getElem_offeredItems {index : Nat}
    (isItem : index < (document.offeredItems encoding set).length) :
    (document.offeredItems encoding set)[index].sortText = BatchLens.sortText index := by
  simp [offeredItems]

theorem length_le_of_increasing
    (increasing : (document.offeredItems encoding set).Pairwise fun left right =>
      left.sortText < right.sortText) : set.items.length ≤ 100000 := by
  by_contra tooMany
  have isItem : 100000 < (document.offeredItems encoding set).length := by
    rw [length_offeredItems]
    omega
  have ordered := List.pairwise_iff_getElem.mp increasing 99999 100000 (by omega) isItem (by omega)
  rw [sortText_getElem_offeredItems, sortText_getElem_offeredItems] at ordered
  exact not_sortText_lt_sortText ordered

theorem increasing_of_length_le (few : set.items.length ≤ 100000) :
    (document.offeredItems encoding set).Pairwise fun left right =>
      left.sortText < right.sortText := by
  rw [List.pairwise_iff_getElem]
  intro first second isFirst isSecond smaller
  rw [sortText_getElem_offeredItems, sortText_getElem_offeredItems]
  apply sortText_lt_sortText smaller
  rw [length_offeredItems] at isSecond
  omega

/-- Items in the order of their texts are in the order in which they were offered, if the texts
increase. -/
theorem eq_of_sorted {offered shown : List OfferedItem}
    (increasing : offered.Pairwise fun left right => left.sortText < right.sortText)
    (permuted : shown.Perm offered)
    (sorted : shown.Pairwise fun left right => left.sortText ≤ right.sortText) :
    shown = offered := by
  apply List.Perm.eq_of_pairwise _ sorted (increasing.imp le_of_lt) permuted
  intro left right isLeft isRight notAbove notBelow
  have sameText := le_antisymm notAbove notBelow
  have distinct : (offered.map OfferedItem.sortText).Nodup := by
    rw [List.Nodup, List.pairwise_map]
    exact increasing.imp fun before => before.ne
  exact List.inj_on_of_nodup_map distinct (permuted.mem_iff.mp isLeft) isRight sameText

/-- The texts to sort by increase along a set of items exactly if there are no more than one hundred
thousand. An editor that sorts by them then shows the items in the order of the set. -/
theorem offeredItems_in_order_iff (document : Document) (encoding : PositionEncoding)
    (set : CompletionSet) :
    ((document.offeredItems encoding set).Pairwise
        (fun left right => left.sortText < right.sortText) ↔ set.items.length ≤ 100000) ∧
      (set.items.length ≤ 100000 →
        ∀ shown : List OfferedItem, shown.Perm (document.offeredItems encoding set) →
          shown.Pairwise (fun left right => left.sortText ≤ right.sortText) →
          shown.map OfferedItem.item = set.items) := by
  refine ⟨⟨length_le_of_increasing, increasing_of_length_le⟩, ?_⟩
  intro few shown permuted sorted
  rw [eq_of_sorted (increasing_of_length_le few) permuted sorted]
  simp [offeredItems, Function.comp_def]

/-- The texts of more items do not increase. -/
theorem not_offeredItems_in_order :
    ¬∀ (document : Document) (encoding : PositionEncoding) (set : CompletionSet),
      (document.offeredItems encoding set).Pairwise fun left right =>
        left.sortText < right.sortText := by
  intro increasing
  have few := length_le_of_increasing
    (increasing ⟨[]⟩ .utf16 ⟨⟨0, 0⟩, List.replicate 100001 (Completion.variableItem [] [])⟩)
  rw [List.length_replicate] at few
  omega

end Document

end BatchLens
