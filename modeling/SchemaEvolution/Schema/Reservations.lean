import SchemaEvolution.Text.NameSet
import SchemaEvolution.Text.Digits

/-! # Reservations

The numbers and names that a message or an enum sets aside.  Ranges are closed, may overlap, and
keep the order in which they were written.  `coversRange` sweeps the ranges in order of their
starts and moves a cursor to the first number that is not yet covered.
-/

namespace SchemaEvolution

/-- A closed range of numbers. -/
structure ReservedRange where
  start : Int
  stop : Int
deriving Repr, DecidableEq

namespace ReservedRange

def single (n : Int) : ReservedRange := ⟨n, n⟩

/-- Whether a number lies in the range. -/
def contains (r : ReservedRange) (n : Int) : Bool := r.start ≤ n && n ≤ r.stop

def text (r : ReservedRange) : String :=
  if r.start = r.stop then s!"{r.start}" else s!"{r.start} to {r.stop}"

/-- The order of ranges, by start and then by stop. -/
def before (a b : ReservedRange) : Bool :=
  a.start < b.start || (a.start == b.start && a.stop < b.stop)

theorem before_isStrictOrder : Sorted.IsStrictOrder before where
  irrefl a := by simp [before]
  trans a b c hab hbc := by
    simp only [before, Bool.or_eq_true, Bool.and_eq_true, decide_eq_true_eq, beq_iff_eq] at *
    omega
  eq_of_neither a b hab hba := by
    cases a
    cases b
    simp only [before, Bool.or_eq_false_iff, Bool.and_eq_false_iff, decide_eq_false_iff_not,
      beq_eq_false_iff_ne, ne_eq, ReservedRange.mk.injEq] at *
    omega

end ReservedRange

/-- Reserved numbers and names. -/
structure Reservations where
  ranges : List ReservedRange
  names : NameSet
deriving Repr, DecidableEq

namespace Reservations

def none : Reservations := ⟨[], .empty⟩

instance : Inhabited Reservations := ⟨none⟩

def isEmpty (r : Reservations) : Bool := r.ranges.isEmpty && r.names.isEmpty

def coversNumber (r : Reservations) (n : Int) : Bool := r.ranges.any (·.contains n)

def coversName (r : Reservations) (name : String) : Bool := r.names.contains name

/-- Move the cursor `next` over ranges in the order of their starts, up to the end of a target. -/
def sweep (stop : Int) (next : Int) : List ReservedRange → Bool
  | [] => false
  | r :: rest =>
    if next < r.start then false
    else if r.stop < next then sweep stop next rest
    else if stop ≤ r.stop then true
    else sweep stop (r.stop + 1) rest

/-- The ranges in order of their starts. -/
def sortedRanges (r : Reservations) : List ReservedRange :=
  Sorted.sortStable (fun a b => !b.before a) r.ranges

/-- Whether every number of a range is reserved. -/
def coversRange (r : Reservations) (target : ReservedRange) : Bool :=
  sweep target.stop target.start r.sortedRanges

def rangeSet (r : Reservations) : List ReservedRange :=
  Sorted.sortDistinct ReservedRange.before r.ranges

end Reservations

end SchemaEvolution
