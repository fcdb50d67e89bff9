import SchemaEvolution.Proofs.Schema.Coverage

/-! # The cursor of the sweep

The ends of ranges are signed words of 64 bits, and the sweep moves its cursor to the number behind a
range.  It does so only where the range ends before the target does, so the cursor never leaves the
words (`Reservations.sweepInWords?_eq_some`): not for ranges that end with the last word, and not for
targets that hold no number.  Main statement: `ranges_are_covered_number_by_number`.
-/

namespace SchemaEvolution

namespace Digits

/-- The next signed word of 64 bits, if there is one. -/
def nextWord? (n : Int) : Option Int :=
  if int64Min ≤ n + 1 ∧ n + 1 ≤ int64Max then some (n + 1) else none

theorem nextWord?_of_lt {n high : Int} (low : int64Min ≤ n) (inside : n < high)
    (fits : high ≤ int64Max) : nextWord? n = some (n + 1) :=
  if_pos ⟨by omega, by omega⟩

end Digits

namespace Reservations

/-- The sweep with its cursor in a word: there is no answer where the cursor would leave the
    words. -/
def sweepInWords? (stop next : Int) : List ReservedRange → Option Bool
  | [] => some false
  | r :: rest =>
    if next < r.start then some false
    else if r.stop < next then sweepInWords? stop next rest
    else if stop ≤ r.stop then some true
    else (Digits.nextWord? r.stop).bind fun next => sweepInWords? stop next rest

/-- The cursor only rises, and only to numbers that are not behind the target. -/
theorem sweepInWords?_eq_some {stop next : Int} (low : Digits.int64Min ≤ next)
    (high : stop ≤ Digits.int64Max) (ranges : List ReservedRange) :
    sweepInWords? stop next ranges = some (sweep stop next ranges) := by
  induction ranges generalizing next with
  | nil => rfl
  | cons r rest ih =>
      rw [sweepInWords?, sweep]
      split
      case isTrue gap => rfl
      case isFalse =>
        split
        case isTrue behind => exact ih low
        case isFalse reached =>
          split
          case isTrue whole => rfl
          case isFalse short =>
            have inside : r.stop < stop := not_le.mp short
            rw [Digits.nextWord?_of_lt (by omega) inside high, Option.bind_some]
            exact ih (by omega)

end Reservations

/-- A range with a number in it is covered exactly if each of its numbers is, whatever the reserved
    ranges are; and whatever they and the range are, the cursor of the sweep stays in the words. -/
theorem ranges_are_covered_number_by_number (r : Reservations) (target : ReservedRange) :
    (target.start ≤ target.stop →
      (r.coversRange target = true ↔
        ∀ n, target.start ≤ n → n ≤ target.stop → r.coversNumber n = true)) ∧
    (Digits.int64Min ≤ target.start → target.stop ≤ Digits.int64Max →
      Reservations.sweepInWords? target.stop target.start r.sortedRanges =
        some (r.coversRange target)) := by
  refine ⟨?_, ?_⟩
  · intro nonempty
    simp only [Reservations.coversRange_iff nonempty, ReservedRange.contains_iff, and_imp]
  · intro low high
    exact Reservations.sweepInWords?_eq_some low high r.sortedRanges

/-- Overlapping ranges in no order, one of them without a number, cover all words. -/
theorem all_words_are_covered :
    (∀ n, Digits.int64Min ≤ n → n ≤ Digits.int64Max →
      Reservations.coversNumber ⟨[⟨12, Digits.int64Max⟩, ⟨9, 3⟩, ⟨-5, 11⟩, ⟨Digits.int64Min, 0⟩],
        .empty⟩ n = true) ∧
    Reservations.sweepInWords? Digits.int64Max Digits.int64Min
      [⟨Digits.int64Min, 0⟩, ⟨-5, 11⟩, ⟨9, 3⟩, ⟨12, Digits.int64Max⟩] = some true := by
  obtain ⟨decides, stays⟩ := ranges_are_covered_number_by_number
    ⟨[⟨12, Digits.int64Max⟩, ⟨9, 3⟩, ⟨-5, 11⟩, ⟨Digits.int64Min, 0⟩], .empty⟩
    ⟨Digits.int64Min, Digits.int64Max⟩
  exact ⟨(decides (by decide)).mp (by decide +kernel), stays (by decide) (by decide)⟩

end SchemaEvolution
