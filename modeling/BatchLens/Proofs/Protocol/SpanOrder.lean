import BatchLens.Proofs.Protocol.SemanticToken

/-!
# The order of spans

Nothing is promised about the order of the spans of a text. The ranges that are kept of them do not
depend on it, because spans are compared by their ranges alone (`map_range_resolveOverlaps`). But of
spans with one and the same range the first one is kept, and its category with it
(`find?_of_mem_resolveOverlaps`). So the order does not matter exactly where no span that is kept
shares its range with one of another category (`resolveOverlaps_any_order`). It does matter for a
variable that is all there is of a string or of a label.
-/

namespace BatchLens

/-- Whether a range starts before another one, or with it and ends no later. -/
def ByteRange.StartsBefore (left right : ByteRange) : Prop :=
  left.start < right.start ∨ (left.start = right.start ∧ left.stop ≤ right.stop)

namespace Span

variable {spans others : List Span} {span other kept : Span}

/-! ## Spans by their ranges -/

theorem range_eq_iff :
    span.range = other.range ↔ span.start = other.start ∧ span.length = other.length := by
  simp only [range, stop, ByteRange.mk.injEq]
  omega

theorem startsBefore_iff :
    span.startsBefore other = true ↔ span.range.StartsBefore other.range := by
  simp only [startsBefore, ByteRange.StartsBefore, range, stop, Bool.or_eq_true, Bool.and_eq_true,
    decide_eq_true_eq, beq_iff_eq]
  omega

theorem startsBefore_trans (first second third : Span) (before : first.startsBefore second = true)
    (behind : second.startsBefore third = true) : first.startsBefore third = true := by
  simp only [startsBefore_iff, ByteRange.StartsBefore] at before behind ⊢
  omega

theorem startsBefore_total (first second : Span) :
    (first.startsBefore second || second.startsBefore first) = true := by
  simp only [Bool.or_eq_true, startsBefore_iff, ByteRange.StartsBefore, range]
  simp only [stop]
  omega

theorem pairwise_mergeSort (spans : List Span) :
    (spans.mergeSort startsBefore).Pairwise fun left right => left.startsBefore right = true :=
  List.pairwise_mergeSort startsBefore_trans startsBefore_total spans

/-! ## The ranges that are kept -/

theorem map_range_mergeSort (permuted : spans.Perm others) :
    (spans.mergeSort startsBefore).map range = (others.mergeSort startsBefore).map range := by
  have ordered : ∀ spans : List Span,
      ((spans.mergeSort startsBefore).map range).Pairwise ByteRange.StartsBefore := by
    intro spans
    apply List.Pairwise.map range _ (pairwise_mergeSort spans)
    intro left right before
    exact startsBefore_iff.mp before
  apply List.Perm.eq_of_pairwise _ (ordered spans) (ordered others)
  · apply List.Perm.map
    exact (List.mergeSort_perm spans _).trans (permuted.trans (List.mergeSort_perm others _).symm)
  · rintro ⟨start, stop⟩ ⟨start', stop'⟩ _ _ before behind
    simp only [ByteRange.StartsBefore, ByteRange.mk.injEq] at before behind ⊢
    omega

theorem map_range_keepApart (same : spans.map range = others.map range) (covered : Nat) :
    (keepApart covered spans).map range = (keepApart covered others).map range := by
  induction spans generalizing others covered with
  | nil =>
      obtain rfl : others = [] := by simpa using same.symm
      rfl
  | cons span spans ih =>
      cases others with
      | nil => simp at same
      | cons other others =>
          simp only [List.map_cons, List.cons.injEq] at same
          rcases same with ⟨sameRange, sameRanges⟩
          rcases range_eq_iff.mp sameRange with ⟨sameStart, sameLength⟩
          have sameStop : span.stop = other.stop := by simp only [stop, sameStart, sameLength]
          simp only [keepApart, sameStart, sameLength]
          split
          next => exact ih sameRanges covered
          next => simp [sameRange, sameStop, ih sameRanges]

theorem map_range_resolveOverlaps (permuted : spans.Perm others) :
    (resolveOverlaps spans).map range = (resolveOverlaps others).map range :=
  map_range_keepApart (map_range_mergeSort permuted) 0

/-! ## The categories that are kept -/

theorem find?_of_mem_keepApart {covered : Nat} (isKept : kept ∈ keepApart covered spans) :
    spans.find? (fun span => span.range == kept.range) = some kept := by
  induction spans generalizing covered with
  | nil => exact absurd isKept List.not_mem_nil
  | cons first others ih =>
      have different (behind : first.length = 0 ∨ first.start < kept.start)
          (nonempty : kept.length ≠ 0) : (first.range == kept.range) = false := by
        rw [beq_eq_false_iff_ne, Ne, range_eq_iff]
        omega
      rw [keepApart] at isKept
      split at isKept
      next isLeftOut =>
        rcases mem_keepApart isKept with ⟨_, nonempty, notCovered⟩
        simp only [Bool.or_eq_true, beq_iff_eq, decide_eq_true_eq] at isLeftOut
        rw [List.find?_cons_of_neg (by simpa using different (by omega) nonempty)]
        exact ih isKept
      next isTaken =>
        rcases List.mem_cons.mp isKept with rfl | isLater
        · exact List.find?_cons_of_pos (beq_self_eq_true _)
        · rcases mem_keepApart isLater with ⟨_, nonempty, notCovered⟩
          simp only [Bool.or_eq_true, beq_iff_eq, stop] at isTaken notCovered
          rw [List.find?_cons_of_neg (by simpa using different (by omega) nonempty)]
          exact ih isLater

/-- Spans with one range are in the same order before and after sorting. -/
theorem find?_mergeSort (range : ByteRange) (spans : List Span) :
    (spans.mergeSort startsBefore).find? (fun span => span.range == range) =
      spans.find? fun span => span.range == range := by
  have ordered : (spans.filter fun span => span.range == range).Pairwise
      fun left right => left.startsBefore right = true := by
    apply List.pairwise_of_forall_mem_list
    intro left isLeft right isRight
    simp only [List.mem_filter, beq_iff_eq] at isLeft isRight
    simp [startsBefore_iff, isLeft.2, isRight.2, ByteRange.StartsBefore]
  have isPart := List.sublist_mergeSort startsBefore_trans startsBefore_total ordered
    List.filter_sublist
  have sameSpans : (spans.filter fun span => span.range == range) =
      (spans.mergeSort startsBefore).filter fun span => span.range == range := by
    apply List.Sublist.eq_of_length
    · simpa using isPart.filter fun span => span.range == range
    · exact ((List.mergeSort_perm spans startsBefore).filter _).length_eq.symm
  rw [← List.head?_filter, ← List.head?_filter, sameSpans]

theorem find?_of_mem_resolveOverlaps (isKept : kept ∈ resolveOverlaps spans) :
    spans.find? (fun span => span.range == kept.range) = some kept := by
  rw [← find?_mergeSort]
  exact find?_of_mem_keepApart isKept

theorem eq_of_map_range_eq (same : spans.map range = others.map range)
    (sameOnRange : ∀ span ∈ spans, ∀ other ∈ others, span.range = other.range → span = other) :
    spans = others := by
  apply List.ext_getElem
  · simpa using congrArg List.length same
  · intro index isLeft isRight
    apply sameOnRange _ (List.getElem_mem isLeft) _ (List.getElem_mem isRight)
    have sameRange := congrArg (fun ranges => ranges[index]?) same
    simpa [isLeft, isRight] using sameRange

/-- The order matters where a span that is kept shares its range with a different one. -/
theorem resolveOverlaps_perm_iff (spans : List Span) :
    (∀ others : List Span, others.Perm spans → resolveOverlaps others = resolveOverlaps spans) ↔
      ∀ kept ∈ resolveOverlaps spans, ∀ other ∈ spans, other.range = kept.range → other = kept := by
  constructor
  · intro sameAlways kept isKept other isOther sameRange
    -- The other span is put in front, and is the one that is kept then.
    have permuted : (other :: spans.erase other).Perm spans := (List.perm_cons_erase isOther).symm
    have sameRanges := map_range_resolveOverlaps permuted
    have isRange : kept.range ∈ (resolveOverlaps (other :: spans.erase other)).map range := by
      rw [sameRanges]
      exact List.mem_map_of_mem isKept
    rcases List.mem_map.mp isRange with ⟨found, isFound, foundRange⟩
    have isFirst := find?_of_mem_resolveOverlaps isFound
    rw [List.find?_cons_of_pos (by simp [sameRange, foundRange])] at isFirst
    rw [sameAlways _ permuted] at isFound
    have keptFirst := find?_of_mem_resolveOverlaps isKept
    have foundFirst := find?_of_mem_resolveOverlaps isFound
    rw [foundRange] at foundFirst
    calc
      other = found := Option.some.inj isFirst
      _ = kept := Option.some.inj (foundFirst.symm.trans keptFirst)
  · intro alone others permuted
    apply eq_of_map_range_eq (map_range_resolveOverlaps permuted)
    intro span isSpan kept isKept sameRange
    apply alone kept isKept span _ sameRange
    exact permuted.mem_iff.mp (mem_resolveOverlaps isSpan).1

end Span

open BatchLens.Span in
/-- Whatever the order of the spans of a text, the same ranges are kept, and of each the category
that comes first. Nothing else depends on the order either, exactly if no span that is kept has its
range in common with one of another category. -/
theorem resolveOverlaps_any_order (text : Text) :
    (∀ spans : List Span, spans.Perm (classify text) →
      (resolveOverlaps spans).map range = (resolveOverlaps (classify text)).map range ∧
      ∀ kept ∈ resolveOverlaps spans,
        spans.find? (fun span => span.range == kept.range) = some kept) ∧
    ((∀ spans : List Span, spans.Perm (classify text) →
        resolveOverlaps spans = resolveOverlaps (classify text)) ↔
      ∀ kept ∈ resolveOverlaps (classify text), ∀ other ∈ classify text,
        other.range = kept.range → other.category = kept.category) := by
  refine ⟨?_, ?_⟩
  · intro spans permuted
    exact ⟨map_range_resolveOverlaps permuted, fun _ => find?_of_mem_resolveOverlaps⟩
  · rw [resolveOverlaps_perm_iff]
    constructor
    · intro alone kept isKept other isOther sameRange
      rw [alone kept isKept other isOther sameRange]
    · intro sameCategory kept isKept other isOther sameRange
      have same := sameCategory kept isKept other isOther sameRange
      rcases range_eq_iff.mp sameRange with ⟨sameStart, sameLength⟩
      cases other
      cases kept
      simp_all

open BatchLens.Span in
/-- What a line echoes may be nothing but a variable: then the order of the two spans decides. -/
theorem not_resolveOverlaps_any_order :
    ¬∀ (text : Text) (spans : List Span), spans.Perm (classify text) →
      resolveOverlaps spans = resolveOverlaps (classify text) := by
  intro sameAlways
  have classified : classify "echo %x%".toList =
      [⟨5, 3, .string⟩, ⟨0, 4, .keyword⟩, ⟨5, 3, .identifier⟩] := by decide +kernel
  have sameAlways := sameAlways "echo %x%".toList
  rw [classified] at sameAlways
  have stringFirst :=
    sameAlways [⟨0, 4, .keyword⟩, ⟨5, 3, .string⟩, ⟨5, 3, .identifier⟩] (by decide)
  have nameFirst :=
    sameAlways [⟨0, 4, .keyword⟩, ⟨5, 3, .identifier⟩, ⟨5, 3, .string⟩] (by decide)
  have same := stringFirst.trans nameFirst.symm
  rw [resolveOverlaps_of_pairwise (by decide), resolveOverlaps_of_pairwise (by decide)] at same
  exact absurd same (by decide)

end BatchLens
