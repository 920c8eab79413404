import Mathlib.Data.List.Perm.Subperm
import Mathlib.Data.Prod.Lex
import BatchLens.Proofs.Batch.Precedence
import BatchLens.Proofs.Protocol.SpanOrder

/-!
# What is left when overlaps are resolved

Any spans can be given, in any order: nested, crossing, empty, or several times. One pass over them
in the order of their starts and lengths keeps a span that is not empty if it starts where the last
kept one has ended. That the end of this one span decides is enough, because every span that is
left out overlaps a kept one that comes no later in the order (`exists_mem_keepApart`). So what is
left is a resolution of the overlaps (`Resolves`), and where none are, it is all there was
(`Resolves.perm_of_apart`).
-/

namespace BatchLens

namespace Span

variable {spans kept : List Span} {span other : Span}

/-- The order of spans is that of their starts and, for one start, of their lengths. -/
theorem startsBefore_iff_toLex_le :
    span.startsBefore other = true ↔
      toLex (span.start, span.length) ≤ toLex (other.start, other.length) := by
  simp only [startsBefore, Prod.Lex.toLex_le_toLex, Bool.or_eq_true, Bool.and_eq_true,
    decide_eq_true_eq, beq_iff_eq]

/-- Whether some of the given spans are left when their overlaps are resolved. None of these is
empty, they start one behind the other and do not overlap, and every given span that is not empty
overlaps one of them that is not greater by start and length: itself, or one that excludes it. -/
structure Resolves (spans kept : List Span) : Prop where
  subperm : kept.Subperm spans
  nonempty : ∀ span ∈ kept, span.length ≠ 0
  increasing : kept.Pairwise fun left right => left.start < right.start
  apart : kept.Pairwise Apart
  excludes : ∀ span ∈ spans, span.length ≠ 0 →
    ∃ strong ∈ kept, strong.intersects span = true ∧
      toLex (strong.start, strong.length) ≤ toLex (span.start, span.length)

/-! ## One pass over ordered spans -/

theorem keepApart_sublist (covered : Nat) (spans : List Span) :
    (keepApart covered spans).Sublist spans := by
  induction spans generalizing covered with
  | nil => exact .slnil
  | cons first others ih =>
      rw [keepApart]
      split
      next => exact (ih covered).cons first
      next => exact (ih first.stop).cons_cons first

/-- In ordered spans, one that is not empty and starts where nothing is taken yet overlaps a kept
one that comes no later: itself if it is kept, or else the one that keeps it out. -/
theorem exists_mem_keepApart {covered : Nat}
    (ordered : spans.Pairwise fun left right => left.startsBefore right = true)
    (isSpan : span ∈ spans) (nonempty : span.length ≠ 0) (notCovered : covered ≤ span.start) :
    ∃ strong ∈ keepApart covered spans,
      strong.intersects span = true ∧ strong.startsBefore span = true := by
  induction spans generalizing covered with
  | nil => exact absurd isSpan List.not_mem_nil
  | cons first others ih =>
      rcases List.pairwise_cons.mp ordered with ⟨isFirst, othersOrdered⟩
      rw [keepApart]
      split
      next isLeftOut =>
        rcases List.mem_cons.mp isSpan with rfl | isOther
        · simp only [Bool.or_eq_true, beq_iff_eq, decide_eq_true_eq] at isLeftOut
          omega
        · exact ih othersOrdered isOther notCovered
      next isTaken =>
        rcases List.mem_cons.mp isSpan with rfl | isOther
        · have overlapsItself : span.intersects span = true := by
            apply intersects_self
            simp only [stop]
            omega
          have isItself : span.startsBefore span = true := by simp [startsBefore]
          exact ⟨span, List.mem_cons_self, overlapsItself, isItself⟩
        · -- The end of the span that is kept now decides about the later ones.
          rcases Nat.lt_or_ge span.start first.stop with overlaps | behind
          · have before := isFirst span isOther
            have overlapsFirst : first.intersects span = true := by
              rw [intersects_iff]
              simp only [startsBefore_iff, ByteRange.StartsBefore, range] at before
              simp only [stop] at overlaps before ⊢
              omega
            exact ⟨first, List.mem_cons_self, overlapsFirst, before⟩
          · rcases ih othersOrdered isOther behind with ⟨strong, isKept, excluded⟩
            exact ⟨strong, List.mem_cons_of_mem first isKept, excluded⟩

/-! ## All spans -/

theorem resolveOverlaps_subperm (spans : List Span) : (resolveOverlaps spans).Subperm spans :=
  (keepApart_sublist 0 _).subperm.trans (List.mergeSort_perm spans startsBefore).subperm

theorem start_lt_start_of_stop_le (nonempty : span.length ≠ 0) (ordered : span.stop ≤ other.start) :
    span.start < other.start := by
  simp only [stop] at ordered
  omega

theorem resolves_resolveOverlaps (spans : List Span) : Resolves spans (resolveOverlaps spans) where
  subperm := resolveOverlaps_subperm spans
  nonempty := fun _ isKept => (mem_resolveOverlaps isKept).2
  increasing := by
    apply (resolveOverlaps_pairwise spans).imp_of_mem
    intro left right isLeft _ ordered
    exact start_lt_start_of_stop_le (mem_resolveOverlaps isLeft).2 ordered
  apart := (resolveOverlaps_pairwise spans).imp intersects_eq_false_of_stop_le
  excludes := by
    intro span isSpan nonempty
    rcases exists_mem_keepApart (pairwise_mergeSort spans) (List.mem_mergeSort.mpr isSpan) nonempty
      (Nat.zero_le _) with ⟨strong, isKept, overlaps, before⟩
    exact ⟨strong, isKept, overlaps, startsBefore_iff_toLex_le.mp before⟩

/-- Where no spans are empty and none overlap, all of them are left. -/
theorem Resolves.perm_of_apart (resolves : Resolves spans kept)
    (nonempty : ∀ span ∈ spans, span.length ≠ 0) (apart : spans.Pairwise Apart) :
    kept.Perm spans := by
  have once : spans.Nodup := by
    apply apart.imp_of_mem
    rintro span _ isSpan _ apart rfl
    have overlapsItself : span.intersects span = true := by
      apply intersects_self
      have := nonempty span isSpan
      simp only [stop]
      omega
    exact Bool.false_ne_true (apart.symm.trans overlapsItself)
  have keptOnce : kept.Nodup := resolves.increasing.imp fun before same => by
    rw [same] at before
    exact Nat.lt_irrefl _ before
  rw [List.perm_ext_iff_of_nodup keptOnce once]
  intro span
  constructor
  · exact fun isKept => resolves.subperm.subset isKept
  · intro isSpan
    rcases resolves.excludes span isSpan (nonempty span isSpan) with ⟨strong, isKept, overlaps, _⟩
    have same : strong = span := by
      by_contra different
      have areApart := apart.forall (resolves.subperm.subset isKept) isSpan different
      exact Bool.false_ne_true (areApart.symm.trans overlaps)
    rwa [same] at isKept

/-- Spans that start one behind the other are in one order only. -/
theorem eq_of_perm_of_increasing (permuted : kept.Perm spans)
    (keptIncreasing : kept.Pairwise fun left right => left.start < right.start)
    (increasing : spans.Pairwise fun left right => left.start < right.start) : kept = spans := by
  apply List.Perm.eq_of_pairwise _ keptIncreasing increasing permuted
  intro left right _ _ before behind
  exact absurd before (Nat.lt_asymm behind)

end Span

/-- Whatever spans are given, the ones that are kept resolve their overlaps. To resolve these again
changes nothing, and spans that are not empty and do not overlap are all kept, only in the order of
their starts. -/
theorem resolveOverlaps_by_priority (spans : List Span) :
    Span.Resolves spans (Span.resolveOverlaps spans) ∧
    Span.resolveOverlaps (Span.resolveOverlaps spans) = Span.resolveOverlaps spans ∧
    ((∀ span ∈ spans, span.length ≠ 0) →
      spans.Pairwise (fun left right => left.intersects right = false) →
      (Span.resolveOverlaps spans).Perm spans) := by
  have resolves := Span.resolves_resolveOverlaps spans
  have again := Span.resolves_resolveOverlaps (Span.resolveOverlaps spans)
  refine ⟨resolves, ?_, ?_⟩
  · apply Span.eq_of_perm_of_increasing _ again.increasing resolves.increasing
    exact again.perm_of_apart resolves.nonempty resolves.apart
  · intro nonempty apart
    exact resolves.perm_of_apart nonempty apart

end BatchLens
