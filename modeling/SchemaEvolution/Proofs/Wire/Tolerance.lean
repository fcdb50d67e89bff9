import SchemaEvolution.Proofs.Wire.Superset

/-! # Tolerating narrowing

A walk that tolerates narrowing and one that does not take the same way as long as no value is
narrowed.  There the strict one ends with a no, so wherever it ends otherwise the two agree
(`Superset.references_strict`), whatever the tolerant one meets later on.
-/

namespace SchemaEvolution

namespace Superset

/-- The comparison with narrowing tolerated, or not. -/
def tolerating (s : Superset) (flag : Bool) : Superset := { s with allowNarrowing := flag }

variable {s : Superset}

theorem leaf_strict (t u : FieldType) :
    (s.tolerating false).leaf t u = .ok false ∨
      (s.tolerating false).leaf t u = (s.tolerating true).leaf t u := by
  by_cases enums : ∃ a b, t = .enum a ∧ u = .enum b
  · obtain ⟨a, b, rfl, rfl⟩ := enums
    exact .inr rfl
  have notEnums : ∀ a b, t = .enum a → u = .enum b → False :=
    fun a b isT isU => enums ⟨a, b, isT, isU⟩
  rw [leaf_eq_of_compare notEnums, leaf_eq_of_compare notEnums]
  cases t.compare u with
  | error fault => exact .inr rfl
  | ok comparison =>
      cases comparison with
      | same | structural | incompatible => exact .inr rfl
      | convertible conversion =>
          cases conversion with
          | narrowing => exact .inl rfl
          | widening | reinterpreting => exact .inr rfl

theorem run_fault {visited : List (String × String)} {a b : String} {fault : WireFault}
    {rest : List Demand} (fresh : (a, b) ∉ visited) (missing : s.messagePair a b = .error fault) :
    s.run visited (some (.message a, .message b) :: rest) =
      (.error fault, (a, b) :: visited) := by
  rw [run, dif_neg (by simpa using fresh)]
  split
  case h_1 _ same =>
    rw [missing] at same
    cases same
    rfl
  case h_2 _ _ found =>
    rw [missing] at found
    cases found

theorem run_leaf {visited : List (String × String)} {t u : FieldType} {rest : List Demand}
    (leaf : ∀ a b, t = .message a → u = .message b → False) :
    s.run visited (some (t, u) :: rest) =
      if s.leaf t u = .ok true then s.run visited rest else (s.leaf t u, visited) := by
  rw [run]
  · split
    case h_1 judged => rw [if_pos judged]
    case h_2 refused => rw [if_neg fun judged => refused judged]
  · exact leaf

/-- A strict walk ends with a no, or as the tolerant one does. -/
theorem run_strict (visited : List (String × String)) (todo : List Demand) :
    ((s.tolerating false).run visited todo).1 = .ok false ∨
      (s.tolerating false).run visited todo = (s.tolerating true).run visited todo := by
  generalize strict : s.tolerating false = strictly
  fun_induction Superset.run strictly visited todo with
  | case1 => exact .inr (by rw [run])
  | case2 => exact .inl rfl
  | case3 visited a b rest seen ih =>
      rw [run, dif_pos seen]
      exact ih
  | case4 visited a b rest fresh fault missing =>
      subst strict
      rw [run_fault (s := s.tolerating true) (by simpa using fresh) missing]
      exact .inr rfl
  | case5 visited a b rest fresh old new found ih =>
      subst strict
      rw [run_message (s := s.tolerating true) (by simpa using fresh) found]
      exact ih
  | case6 visited t u rest leaf judged ih =>
      subst strict
      rcases s.leaf_strict t u with refused | same
      · rw [judged] at refused
        cases refused
      · rw [run_leaf leaf, if_pos (same ▸ judged)]
        exact ih
  | case7 visited t u rest leaf judged =>
      subst strict
      rcases s.leaf_strict t u with refused | same
      · exact .inl refused
      · rw [run_leaf leaf, ← same, if_neg judged]
        exact .inr rfl

theorem references_strict (visited : List (String × String)) (t u : FieldType) :
    ((s.tolerating false).references visited t u).1 = .ok false ∨
      (s.tolerating false).references visited t u =
        (s.tolerating true).references visited t u := by
  cases t <;> cases u
  case message.message => exact run_strict _ _
  all_goals exact .inr rfl

end Superset

end SchemaEvolution
