import SchemaEvolution.Proofs.Schema.Extension
import SchemaEvolution.Proofs.Wire.Faults
import SchemaEvolution.Proofs.Wire.Tolerance

/-! # Comparisons over snapshots with more types

A walk that begins with types of two snapshots never leaves them, because the fields of a valid
snapshot refer to nothing that was added to it.  So it looks up the same definitions in the two
extended snapshots, sees the same pairs and ends with the same answer (`references_of_extended`).
-/

namespace SchemaEvolution.Superset

/-- A demand on types that refer to nothing that some types define. -/
def Demand.Avoids (added : List TypeDef) (d : Demand) : Prop :=
  ∀ t u, d = some (t, u) → t.Avoids added ∧ u.Avoids added

variable {base base' candidate candidate' : Snapshot} {added : List TypeDef}
  (extendedBase : base.ExtendedBy added base')
  (extendedCandidate : candidate.ExtendedBy added candidate') {allowNarrowing : Bool}
include extendedBase extendedCandidate

theorem enums_of_extended {a b : String} (spareA : spares added a = true)
    (spareB : spares added b = true) :
    (Superset.mk base' candidate' allowNarrowing).enums a b =
      (Superset.mk base candidate allowNarrowing).enums a b := by
  simp only [enums, extendedBase.enum?_eq spareA, extendedCandidate.enum?_eq spareB]

theorem messagePair_of_extended {a b : String} (spareA : spares added a = true)
    (spareB : spares added b = true) :
    (Superset.mk base' candidate' allowNarrowing).messagePair a b =
      (Superset.mk base candidate allowNarrowing).messagePair a b := by
  simp only [messagePair, extendedBase.message?_eq spareA, extendedCandidate.message?_eq spareB]

theorem leaf_of_extended {t u : FieldType} (avoidsT : t.Avoids added) (avoidsU : u.Avoids added) :
    (Superset.mk base' candidate' allowNarrowing).leaf t u =
      (Superset.mk base candidate allowNarrowing).leaf t u := by
  by_cases both : ∃ a b, t = .enum a ∧ u = .enum b
  · obtain ⟨a, b, rfl, rfl⟩ := both
    exact enums_of_extended extendedBase extendedCandidate (avoidsT a rfl) (avoidsU b rfl)
  · have notEnums : ∀ a b, t = .enum a → u = .enum b → False :=
      fun a b isT isU => both ⟨a, b, isT, isU⟩
    rw [leaf_eq_of_compare notEnums, leaf_eq_of_compare notEnums]

/-- The fields of two old messages demand nothing of added types. -/
theorem avoids_demands {a b : String} {old new : MessageType}
    (found : (Superset.mk base candidate allowNarrowing).messagePair a b = .ok (old, new)) :
    ∀ d ∈ demands old new, Demand.Avoids added d := by
  obtain ⟨atBase, atCandidate⟩ := messagePair_eq_ok_iff.mp found
  rintro d member t u rfl
  rcases mem_demands member with missing | ⟨f, liveOld, g, liveNew, same⟩
  · cases missing
  · cases same
    exact ⟨extendedBase.avoids (Snapshot.mem_of_message? atBase) liveOld,
      extendedCandidate.avoids (Snapshot.mem_of_message? atCandidate) liveNew⟩

/-- A walk whose demands avoid what was added goes the same way over the extended snapshots. -/
theorem run_of_extended {visited : List (String × String)} {todo : List Demand}
    (avoids : ∀ d ∈ todo, Demand.Avoids added d) :
    (Superset.mk base' candidate' allowNarrowing).run visited todo =
      (Superset.mk base candidate allowNarrowing).run visited todo := by
  generalize smaller : Superset.mk base candidate allowNarrowing = s
  fun_induction Superset.run s visited todo with
  | case1 => rw [run]
  | case2 => rw [run]
  | case3 visited a b rest seen ih =>
      rw [run, dif_pos seen]
      exact ih (List.forall_mem_cons.mp avoids).2
  | case4 visited a b rest fresh fault missing =>
      obtain ⟨left, right⟩ := avoids _ List.mem_cons_self _ _ rfl
      subst smaller
      have same : (Superset.mk base' candidate' allowNarrowing).messagePair a b = .error fault := by
        rw [messagePair_of_extended extendedBase extendedCandidate (left a rfl) (right b rfl)]
        exact missing
      rw [run_fault (by simpa using fresh) same]
  | case5 visited a b rest fresh old new found ih =>
      obtain ⟨here, later⟩ := List.forall_mem_cons.mp avoids
      obtain ⟨left, right⟩ := here _ _ rfl
      subst smaller
      have same : (Superset.mk base' candidate' allowNarrowing).messagePair a b = .ok (old, new) := by
        rw [messagePair_of_extended extendedBase extendedCandidate (left a rfl) (right b rfl)]
        exact found
      rw [run_message (by simpa using fresh) same]
      exact ih (List.forall_mem_append.mpr
        ⟨avoids_demands extendedBase extendedCandidate found, later⟩)
  | case6 visited t u rest leaf judged ih =>
      obtain ⟨here, later⟩ := List.forall_mem_cons.mp avoids
      obtain ⟨left, right⟩ := here _ _ rfl
      subst smaller
      rw [run_leaf leaf, leaf_of_extended extendedBase extendedCandidate left right,
        if_pos judged]
      exact ih later
  | case7 visited t u rest leaf judged =>
      obtain ⟨left, right⟩ := avoids _ List.mem_cons_self _ _ rfl
      subst smaller
      rw [run_leaf leaf, leaf_of_extended extendedBase extendedCandidate left right,
        if_neg judged]

/-- Two references that avoid what was added are compared alike over the extended snapshots. -/
theorem references_of_extended {t u : FieldType} (avoidsT : t.Avoids added)
    (avoidsU : u.Avoids added) (visited : List (String × String)) :
    (Superset.mk base' candidate' allowNarrowing).references visited t u =
      (Superset.mk base candidate allowNarrowing).references visited t u := by
  cases t <;> cases u
  case message.message a b =>
    refine run_of_extended extendedBase extendedCandidate ?_
    intro d member t u same
    rw [List.mem_singleton.mp member] at same
    cases same
    exact ⟨avoidsT, avoidsU⟩
  case enum.enum a b =>
    rw [references, references,
      enums_of_extended extendedBase extendedCandidate (avoidsT a rfl) (avoidsU b rfl)]
  all_goals rfl

end SchemaEvolution.Superset
