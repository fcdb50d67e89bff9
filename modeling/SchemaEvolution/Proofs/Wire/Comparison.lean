import Mathlib
import SchemaEvolution.Wire.Conversion

/-! # Comparisons of types

Types that compare as anything but incompatible share their wire type: conversions stay within
varints, and a structural comparison is one of two messages or of two enums.
-/

namespace SchemaEvolution

namespace Conversion

theorem mem_table_of_find? {old new : Scalar} {conversion : Conversion}
    (found : find? old new = some conversion) : (old, new, conversion) ∈ table := by
  obtain ⟨⟨a, b, c⟩, entry, rfl⟩ := Option.map_eq_some_iff.mp found
  have matched := List.find?_some entry
  simp only [Bool.and_eq_true, beq_iff_eq] at matched
  obtain ⟨rfl, rfl⟩ := matched
  exact List.mem_of_find?_eq_some entry

/-- Only varints convert. -/
theorem wireType_of_find? {old new : Scalar} {conversion : Conversion}
    (found : find? old new = some conversion) :
    old.wireType = .varint ∧ new.wireType = .varint := by
  have varints : ∀ entry ∈ table, entry.1.wireType = .varint ∧ entry.2.1.wireType = .varint := by
    decide
  exact varints _ (mem_table_of_find? found)

end Conversion

namespace FieldType

theorem exists_of_conversion? {t u : FieldType} {conversion : Conversion}
    (found : t.conversion? u = some conversion) :
    ∃ old new, t = .scalar old ∧ u = .scalar new ∧ Conversion.find? old new = some conversion := by
  unfold conversion? at found
  split at found
  case h_1 old new => exact ⟨old, new, rfl, rfl, found⟩
  case h_2 => cases found

theorem conversion?_of_isGroup {t u : FieldType} (group : (t.isGroup || u.isGroup) = true) :
    t.conversion? u = none := by
  cases t <;> cases u <;> first | rfl | cases group

theorem conversion?_of_sameFamily {t u : FieldType} (differ : t ≠ u)
    (family : t.sameFamily u = true) : t.conversion? u = none := by
  cases t <;> cases u
  case scalar.scalar a b =>
      rw [sameFamily, beq_iff_eq] at family
      exact absurd (congrArg scalar family) differ
  all_goals rfl

theorem wireType_eq_of_sameFamily {t u : FieldType} (same : t.sameFamily u = true) :
    t.wireType = u.wireType := by
  cases t <;> cases u <;> simp_all [sameFamily, wireType]

theorem wireType_eq_of_compare {t u : FieldType} {comparison : TypeComparison}
    (compares : t.compare u = .ok comparison) (compatible : comparison ≠ .incompatible) :
    t.wireType = u.wireType := by
  unfold compare at compares
  split at compares
  case isTrue same => rw [same]
  case isFalse =>
    split at compares
    case isTrue => cases compares
    case isFalse =>
      split at compares
      case isTrue family => exact wireType_eq_of_sameFamily family
      case isFalse =>
        cases converts : t.conversion? u with
        | none =>
            rw [converts] at compares
            cases compares
            exact absurd rfl compatible
        | some conversion =>
            obtain ⟨old, new, rfl, rfl, found⟩ := exists_of_conversion? converts
            obtain ⟨before, after⟩ := Conversion.wireType_of_find? found
            exact before.trans after.symm

end FieldType

end SchemaEvolution
