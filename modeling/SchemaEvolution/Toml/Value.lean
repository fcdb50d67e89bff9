import SchemaEvolution.Decimal.Binary64

/-! # TOML values

A table keeps its entries in the order in which they were written, each key once.  A date is kept
as the text of its normal form.
-/

namespace SchemaEvolution

/-- A TOML value. -/
inductive Toml
  | string (value : String)
  | integer (value : Int)
  | float (value : Binary64)
  | bool (value : Bool)
  | moment (text : String)
  | array (items : List Toml)
  | table (entries : List (String × Toml))
deriving Repr

namespace Toml

abbrev Entries := List (String × Toml)

/-- Put a value under a key, in place of the one that is there or behind the others. -/
def put {α : Type} (k : String) (value : α) : List (String × α) → List (String × α)
  | [] => [(k, value)]
  | (other, old) :: rest =>
    if other = k then (k, value) :: rest else (other, old) :: put k value rest

theorem lookup_put_self {α : Type} (k : String) (value : α) (entries : List (String × α)) :
    (put k value entries).lookup k = some value := by
  induction entries with
  | nil => simp [put]
  | cons entry rest ih =>
    obtain ⟨other, old⟩ := entry
    simp only [put]
    split
    · simp
    · next different =>
      have : (k == other) = false := by simpa using fun same : k = other => different same.symm
      simp [List.lookup_cons, this, ih]

theorem lookup_put_of_ne {α : Type} {k other : String} (different : other ≠ k) (value : α)
    (entries : List (String × α)) : (put k value entries).lookup other = entries.lookup other := by
  induction entries with
  | nil =>
    have : (other == k) = false := by simpa using different
    simp [put, List.lookup_cons, this]
  | cons entry rest ih =>
    obtain ⟨name, old⟩ := entry
    simp only [put]
    split
    · next same =>
      subst same
      have : (other == name) = false := by simpa using different
      simp [List.lookup_cons, this]
    · simp only [List.lookup_cons, ih]

end Toml

end SchemaEvolution
