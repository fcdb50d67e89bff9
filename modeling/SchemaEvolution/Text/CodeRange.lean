/-! # Tables of characters

A table is a list of closed intervals of code points, in ascending order.  Between two intervals
lies a code point that belongs to neither, so a set of characters has one table.
-/

namespace SchemaEvolution.CodeRange

/-- Whether a character lies in one of the intervals. -/
def covers (table : List (Nat × Nat)) (c : Char) : Bool :=
  table.any fun (first, last) => first ≤ c.toNat && c.toNat ≤ last

/-- Whether no interval is empty, and each begins behind a gap after the one before it. -/
def ascend : List (Nat × Nat) → Bool
  | [] => true
  | [(first, last)] => first ≤ last
  | (first, last) :: (next, top) :: rest =>
    first ≤ last && last + 1 < next && ascend ((next, top) :: rest)

/-- How many code points a table holds. -/
def size (table : List (Nat × Nat)) : Nat :=
  table.foldl (fun total (first, last) => total + (last + 1 - first)) 0

end SchemaEvolution.CodeRange
