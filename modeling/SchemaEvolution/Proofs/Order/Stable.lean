import Mathlib
import SchemaEvolution.Order.Sorted

/-! # Stable sorts

Which entry a stable sort puts in front.  It is the one that `Leads` the list: it comes strictly
before the entries in front of it and is not after any entry behind it (`head?_sortStable_iff`).
Sorting leaves a list that is in order as it is, and commutes with selecting some of the entries.
-/

namespace SchemaEvolution.Sorted

variable {α : Type} {le : α → α → Bool}

theorem insertStable_of_first {a : α} {as : List α} (first : ∀ b ∈ as, le a b = true) :
    insertStable le a as = a :: as := by
  cases as with
  | nil => rfl
  | cons b bs => rw [insertStable, if_pos (first b List.mem_cons_self)]

theorem sortStable_of_pairwise {as : List α} (sorted : as.Pairwise (le · · = true)) :
    sortStable le as = as := by
  induction sorted with
  | nil => rfl
  | cons first _ ih => exact (congrArg _ ih).trans (insertStable_of_first first)

/-- Whether an entry comes before all others of a list, where the earlier one of equal entries
    counts as the one before. -/
def Leads (le : α → α → Bool) (as : List α) (a : α) : Prop :=
  ∃ before after, as = before ++ a :: after ∧
    (∀ b ∈ before, le b a = false) ∧ ∀ b ∈ after, le a b = true

theorem Leads.mem {as : List α} {a : α} (leads : Leads le as a) : a ∈ as := by
  obtain ⟨before, after, rfl, -, -⟩ := leads
  exact List.mem_append_right _ List.mem_cons_self

theorem leads_cons_iff {as : List α} {a b : α} :
    Leads le (b :: as) a ↔
      (a = b ∧ ∀ c ∈ as, le a c = true) ∨ le b a = false ∧ Leads le as a := by
  constructor
  · rintro ⟨before, after, split, earlier, later⟩
    cases before with
    | nil =>
        obtain ⟨rfl, rfl⟩ := List.cons.inj split
        exact .inl ⟨rfl, later⟩
    | cons c before =>
        obtain ⟨rfl, rfl⟩ := List.cons.inj split
        obtain ⟨first, earlier⟩ := List.forall_mem_cons.mp earlier
        exact .inr ⟨first, before, after, rfl, earlier, later⟩
  · rintro (⟨rfl, later⟩ | ⟨first, before, after, rfl, earlier, later⟩)
    · exact ⟨[], as, rfl, by simp, later⟩
    · exact ⟨b :: before, after, rfl, List.forall_mem_cons.mpr ⟨first, earlier⟩, later⟩

/-- Two mapped entries are compared as the entries are through the map. -/
theorem leads_map_iff {β : Type} {le : β → β → Bool} {f : α → β} {as : List α} {b : β} :
    Leads le (as.map f) b ↔ ∃ a, Leads (fun x y => le (f x) (f y)) as a ∧ f a = b := by
  constructor
  · rintro ⟨before, after, split, earlier, later⟩
    obtain ⟨front, back, rfl, rfl, mapped⟩ := List.map_eq_append_iff.mp split
    obtain ⟨a, rest, rfl, rfl, rfl⟩ := List.map_eq_cons_iff.mp mapped
    exact ⟨a, ⟨front, rest, rfl, List.forall_mem_map.mp earlier, List.forall_mem_map.mp later⟩, rfl⟩
  · rintro ⟨a, ⟨before, after, rfl, earlier, later⟩, rfl⟩
    exact ⟨before.map f, after.map f, by simp, List.forall_mem_map.mpr earlier,
      List.forall_mem_map.mpr later⟩

section Preorder

variable (trans : ∀ a b c, le a b = true → le b c = true → le a c = true)
  (total : ∀ a b, le a b = true ∨ le b a = true)

include total in
theorem Leads.le_of_mem {as : List α} {a b : α} (leads : Leads le as a) (member : b ∈ as) :
    le a b = true := by
  obtain ⟨before, after, rfl, earlier, later⟩ := leads
  rcases List.mem_append.mp member with member | member
  · exact (total a b).resolve_right (by simp [earlier b member])
  rcases List.mem_cons.mp member with rfl | member
  · exact (total b b).elim id id
  · exact later b member

include trans

theorem filter_insertStable {as : List α} (sorted : as.Pairwise (le · · = true)) (p : α → Bool)
    (a : α) :
    (insertStable le a as).filter p =
      if p a then insertStable le a (as.filter p) else as.filter p := by
  induction as with
  | nil => cases chosen : p a <;> simp [insertStable, chosen]
  | cons b bs ih =>
      obtain ⟨below, sortedRest⟩ := List.pairwise_cons.mp sorted
      rw [insertStable]
      split
      case isTrue first =>
        have foremost : ∀ c ∈ (b :: bs).filter p, le a c = true := by
          intro c member
          rcases List.mem_cons.mp (List.mem_of_mem_filter member) with rfl | member
          · exact first
          · exact trans _ _ _ first (below c member)
        rw [insertStable_of_first foremost, List.filter_cons]
      case isFalse later =>
        rw [List.filter_cons, ih sortedRest, List.filter_cons]
        cases p b <;> cases p a <;> simp [insertStable, later]

include total

/-- To sort some of the entries is to select them from the sorted list. -/
theorem filter_sortStable (p : α → Bool) (as : List α) :
    (sortStable le as).filter p = sortStable le (as.filter p) := by
  induction as with
  | nil => rfl
  | cons a as ih =>
      have step : sortStable le (a :: as) = insertStable le a (sortStable le as) := rfl
      rw [step, filter_insertStable trans (pairwise_sortStable trans total as), ih, List.filter_cons]
      cases p a <;> rfl

/-- The entry that leads a list comes out of the sort first. -/
theorem head?_sortStable_iff {as : List α} {a : α} :
    (sortStable le as).head? = some a ↔ Leads le as a := by
  induction as generalizing a with
  | nil =>
      constructor
      · intro found
        cases found
      · intro leads
        cases leads.mem
  | cons b bs ih =>
      have step : sortStable le (b :: bs) = insertStable le b (sortStable le bs) := rfl
      rw [step, leads_cons_iff]
      cases sorted : sortStable le bs with
      | nil =>
          obtain rfl : bs = [] := (sorted ▸ sortStable_perm le bs).nil_eq.symm
          constructor
          · intro found
            exact .inl ⟨(Option.some.inj found).symm, by simp⟩
          · rintro (⟨rfl, -⟩ | ⟨-, leads⟩)
            · rfl
            · cases leads.mem
      | cons c cs =>
          have leads : Leads le bs c := ih.mp (by rw [sorted]; rfl)
          have only (d : α) (same : Leads le bs d) : d = c := by
            have found := ih.mpr same
            rw [sorted] at found
            exact (Option.some.inj found).symm
          rw [insertStable]
          split
          case isTrue first =>
            simp only [List.head?_cons, Option.some.injEq]
            constructor
            · rintro rfl
              exact .inl ⟨rfl, fun d member => trans _ _ _ first (leads.le_of_mem total member)⟩
            · rintro (⟨rfl, -⟩ | ⟨later, same⟩)
              · rfl
              · rw [only a same, first] at later
                cases later
          case isFalse later =>
            simp only [List.head?_cons, Option.some.injEq]
            constructor
            · rintro rfl
              exact .inr ⟨Bool.eq_false_of_not_eq_true later, leads⟩
            · rintro (⟨rfl, first⟩ | ⟨-, same⟩)
              · exact absurd (first c leads.mem) later
              · exact (only a same).symm

end Preorder

end SchemaEvolution.Sorted
