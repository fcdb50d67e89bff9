import Mathlib
import SchemaEvolution.Schema.Reservations

/-! # Covered ranges

The sweep over sorted ranges decides whether every number of a range is reserved
(`coversRange_iff`), however the ranges overlap, and also where some of them hold no number.  The
set of ranges shows which ranges are listed and nothing else (`rangeSet_eq_iff`).
-/

namespace SchemaEvolution

namespace ReservedRange

theorem contains_iff {r : ReservedRange} {n : Int} :
    r.contains n = true ↔ r.start ≤ n ∧ n ≤ r.stop := by
  simp [contains]

end ReservedRange

namespace Reservations

theorem coversNumber_iff {r : Reservations} {n : Int} :
    r.coversNumber n = true ↔ ∃ range ∈ r.ranges, range.contains n = true := by
  simp [coversNumber]

/-- Over ranges in the order of their starts the sweep is exact: the cursor is the first number
    that no earlier range covers. -/
theorem sweep_eq_true_iff {stop next : Int} {ranges : List ReservedRange}
    (sorted : ranges.Pairwise fun a b => a.start ≤ b.start) (nonempty : next ≤ stop) :
    sweep stop next ranges = true ↔
      ∀ n, next ≤ n → n ≤ stop → ∃ r ∈ ranges, r.contains n = true := by
  induction ranges generalizing next with
  | nil =>
      simp only [sweep, List.not_mem_nil, false_and, exists_false, imp_false, Bool.false_eq_true,
        false_iff, not_forall]
      exact ⟨next, le_refl next, fun above => above nonempty⟩
  | cons r rest ih =>
      obtain ⟨first, sortedRest⟩ := List.pairwise_cons.mp sorted
      simp only [sweep, List.exists_mem_cons_iff, ReservedRange.contains_iff]
      split
      case isTrue gap =>
        -- the cursor itself is free, for no later range starts earlier
        simp only [Bool.false_eq_true, false_iff]
        intro covered
        rcases covered next (le_refl next) nonempty with ⟨starts, -⟩ | ⟨s, member, starts, -⟩
        · omega
        · have later := first s member
          omega
      case isFalse =>
        split
        case isTrue behind =>
          rw [ih sortedRest nonempty]
          simp only [ReservedRange.contains_iff]
          constructor
          · intro covered n low high
            exact .inr (covered n low high)
          · intro covered n low high
            rcases covered n low high with ⟨-, ends⟩ | covered
            · omega
            · exact covered
        case isFalse =>
          split
          case isTrue =>
            simp only [true_iff]
            intro n low high
            exact .inl (by omega)
          case isFalse =>
            rw [ih sortedRest (by omega)]
            simp only [ReservedRange.contains_iff]
            constructor
            · intro covered n low high
              by_cases inside : n ≤ r.stop
              · exact .inl (by omega)
              · exact .inr (covered n (by omega) high)
            · intro covered n low high
              rcases covered n (by omega) high with ⟨-, ends⟩ | covered
              · omega
              · exact covered

/-- No range comes behind one that is after it. -/
theorem pairwise_notAfter_sortedRanges (r : Reservations) :
    r.sortedRanges.Pairwise fun a b => b.before a = false := by
  refine (Sorted.pairwise_sortStable ?_ ?_ r.ranges).imp (by simp)
  · intro a b c ab bc
    simp only [ReservedRange.before, Bool.not_eq_true', Bool.or_eq_false_iff,
      Bool.and_eq_false_iff, decide_eq_false_iff_not, beq_eq_false_iff_ne] at *
    omega
  · intro a b
    simp only [ReservedRange.before, Bool.not_eq_true', Bool.or_eq_false_iff,
      Bool.and_eq_false_iff, decide_eq_false_iff_not, beq_eq_false_iff_ne]
    omega

theorem pairwise_sortedRanges (r : Reservations) :
    r.sortedRanges.Pairwise fun a b => a.start ≤ b.start := by
  refine r.pairwise_notAfter_sortedRanges.imp ?_
  intro a b notAfter
  simp only [ReservedRange.before, Bool.or_eq_false_iff, decide_eq_false_iff_not] at notAfter
  omega

/-- A range is covered exactly if each of its numbers is. -/
theorem coversRange_iff {r : Reservations} {target : ReservedRange}
    (nonempty : target.start ≤ target.stop) :
    r.coversRange target = true ↔ ∀ n, target.contains n = true → r.coversNumber n = true := by
  rw [coversRange, sweep_eq_true_iff r.pairwise_sortedRanges nonempty]
  simp only [coversNumber_iff, ReservedRange.contains_iff, sortedRanges, Sorted.mem_sortStable,
    and_imp]

theorem mem_rangeSet {r : Reservations} {range : ReservedRange} :
    range ∈ r.rangeSet ↔ range ∈ r.ranges :=
  Sorted.mem_sortDistinct ReservedRange.before_isStrictOrder

/-- The set of ranges is the same exactly if the same ranges are listed. -/
theorem rangeSet_eq_iff {r q : Reservations} :
    r.rangeSet = q.rangeSet ↔ ∀ range, range ∈ r.ranges ↔ range ∈ q.ranges := by
  constructor
  · intro same range
    rw [← mem_rangeSet, same, mem_rangeSet]
  · intro same
    apply Sorted.eq_of_mem_iff ReservedRange.before_isStrictOrder
    · exact Sorted.pairwise_sortDistinct ReservedRange.before_isStrictOrder _
    · exact Sorted.pairwise_sortDistinct ReservedRange.before_isStrictOrder _
    · intro range
      exact mem_rangeSet.trans ((same range).trans mem_rangeSet.symm)

end Reservations

end SchemaEvolution
