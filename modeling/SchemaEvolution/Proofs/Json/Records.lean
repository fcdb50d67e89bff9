import SchemaEvolution.Json.Decode
import SchemaEvolution.Proofs.Json.RoundTrip
import SchemaEvolution.Proofs.Order.Corresponding

/-! # Records with their members in order

Sorting a value changes the order of members and nothing else (`Json.sortedMembers_perm`), and a
reader of records does not see their order: it looks members up by their keys.  So what a record was
written from reads back from the sorted record (`Json.record?_of_perm`, `Json.tagged?_sorted`).
-/

namespace SchemaEvolution.Json

section Sorting

/-- A member with its value sorted. -/
def sortedMember (m : String × Json) : String × Json := (m.1, m.2.sorted)

theorem map_fst_sortedMember (members : Members) :
    (members.map sortedMember).map Prod.fst = members.map Prod.fst := by
  simp [sortedMember, Function.comp_def]

theorem insertMember_perm {key : String} {value : Json} {members : Members}
    (fresh : key ∉ members.map Prod.fst) :
    (insertMember key value members).Perm ((key, value) :: members) := by
  induction members with
  | nil => exact .refl _
  | cons m rest ih =>
      rw [List.map_cons, List.mem_cons, not_or] at fresh
      rw [insertMember]
      split
      case isTrue => exact .refl _
      case isFalse notBefore =>
        split
        case isTrue => exact ((ih fresh.2).cons m).trans (.swap _ _ _)
        case isFalse notAfter =>
          exact absurd (String.le_antisymm (String.not_lt.mp notAfter) (String.not_lt.mp notBefore))
            fresh.1

/-- Sorting neither loses nor invents a member. -/
theorem sortedMembers_perm {members done : Members}
    (distinct : ((members ++ done).map Prod.fst).Nodup) :
    (sortedMembers members done).Perm (members.map sortedMember ++ done) := by
  induction members generalizing done with
  | nil => exact .refl _
  | cons m rest ih =>
      have fresh : m.1 ∉ done.map Prod.fst := by
        rw [List.cons_append, List.map_cons, List.nodup_cons, List.map_append, List.mem_append,
          not_or] at distinct
        exact distinct.1.2
      have inserted : (insertMember m.1 m.2.sorted done).Perm (sortedMember m :: done) :=
        insertMember_perm fresh
      have moved : (rest ++ insertMember m.1 m.2.sorted done).Perm
          (sortedMember m :: (rest ++ done)) :=
        (inserted.append_left rest).trans List.perm_middle
      have keys : ((rest ++ insertMember m.1 m.2.sorted done).map Prod.fst).Nodup :=
        (moved.map Prod.fst).nodup_iff.mpr distinct
      exact (ih keys).trans ((inserted.append_left _).trans List.perm_middle)

theorem insertMember_of_last {key : String} {value : Json} {members : Members}
    (last : ∀ k ∈ members.map Prod.fst, k < key) :
    insertMember key value members = members ++ [(key, value)] := by
  induction members with
  | nil => rfl
  | cons m rest ih =>
      rw [List.map_cons, List.forall_mem_cons] at last
      rw [insertMember, if_neg (String.lt_asymm last.1), if_pos last.1, ih last.2]
      rfl

/-- Members in order stay where they are. -/
theorem sortedMembers_of_pairwise {members done : Members}
    (ordered : ((done ++ members).map Prod.fst).Pairwise (· < ·)) :
    sortedMembers members done = done ++ members.map sortedMember := by
  induction members generalizing done with
  | nil => simp [sortedMembers]
  | cons m rest ih =>
      have last : ∀ k ∈ done.map Prod.fst, k < m.1 := by
        rw [List.map_append, List.pairwise_append] at ordered
        intro k member
        exact ordered.2.2 k member m.1 (by simp)
      rw [sortedMembers, insertMember_of_last last, ih]
      · simp [sortedMember]
      · simpa using ordered

theorem sorted_object_perm {members : Members} (distinct : (members.map Prod.fst).Nodup) :
    ∃ written : Members, (Json.object members).sorted = .object written ∧
      written.Perm (members.map sortedMember) := by
  refine ⟨sortedMembers members [], rfl, ?_⟩
  have perm : (sortedMembers members []).Perm (members.map sortedMember ++ []) :=
    sortedMembers_perm (by simpa using distinct)
  rwa [List.append_nil] at perm

theorem sorted_array (items : List Json) :
    (Json.array items).sorted = .array (items.map sorted) := by
  have each : sortedItems items = items.map sorted := by
    induction items with
    | nil => rfl
    | cons v rest ih => rw [sortedItems, ih, List.map_cons]
  rw [sorted, each]

end Sorting

section Depth

theorem fits_strings {depth : Nat} (texts : List String) : Fits (depth + 1) (strings texts) := by
  refine .array ?_
  rw [List.forall_mem_map]
  exact fun text _ => .string text

theorem fits_nat {depth n : Nat} (word : (n : Int) ≤ Digits.word64Max) : Fits depth (nat n) := by
  have low : Digits.int64Min ≤ 0 := by decide
  exact .integer ⟨low.trans (Int.natCast_nonneg n), word⟩

theorem mem_insertMember {key : String} {value : Json} {members : Members} {m : String × Json}
    (member : m ∈ insertMember key value members) : m = (key, value) ∨ m ∈ members := by
  induction members with
  | nil => simpa [insertMember] using member
  | cons n rest ih =>
      rw [insertMember] at member
      split at member
      case isTrue => simpa using member
      case isFalse =>
        split at member
        case isTrue =>
          rcases List.mem_cons.mp member with rfl | member
          · exact .inr List.mem_cons_self
          · exact (ih member).imp_right (List.mem_cons_of_mem n)
        case isFalse =>
          rcases List.mem_cons.mp member with rfl | member
          · exact .inl rfl
          · exact .inr (List.mem_cons_of_mem n member)

theorem mem_sortedMembers {members done : Members} {m : String × Json}
    (member : m ∈ sortedMembers members done) :
    (∃ n ∈ members, m = sortedMember n) ∨ m ∈ done := by
  induction members generalizing done with
  | nil => exact .inr member
  | cons n rest ih =>
      rw [sortedMembers] at member
      rcases ih member with ⟨o, inside, rfl⟩ | inside
      · exact .inl ⟨o, List.mem_cons_of_mem n inside, rfl⟩
      · rcases mem_insertMember inside with rfl | inside
        · exact .inl ⟨n, List.mem_cons_self, rfl⟩
        · exact .inr inside

/-- Sorting a value leaves its depth and its numbers. -/
theorem Fits.sorted {depth : Nat} {v : Json} (fits : Fits depth v) : Fits depth v.sorted := by
  induction fits with
  | null => exact .null
  | bool value => exact .bool value
  | integer word => exact .integer word
  | string text => exact .string text
  | array fit ih =>
      rw [sorted_array]
      refine .array fun v member => ?_
      obtain ⟨w, inside, rfl⟩ := List.mem_map.mp member
      exact ih w inside
  | object fit ih =>
      refine .object fun m member => ?_
      rcases mem_sortedMembers member with ⟨n, inside, rfl⟩ | none
      · exact ih n inside
      · cases none

end Depth

section Reading

variable {fields : List String} {closed : Bool} {members written : Members}

/-- The order of members does not matter to a search by key. -/
theorem lookup_of_perm {others : Members} (perm : members.Perm others)
    (distinct : (members.map Prod.fst).Nodup) (key : String) :
    members.lookup key = others.lookup key := by
  refine Option.ext fun value => ?_
  rw [lookup_eq_some_iff_of_nodup distinct,
    lookup_eq_some_iff_of_nodup ((perm.map Prod.fst).nodup_iff.mp distinct), perm.mem_iff]

theorem lookup_map_sortedMember (members : Members) (key : String) :
    (members.map sortedMember).lookup key = (members.lookup key).map sorted := by
  induction members with
  | nil => rfl
  | cons m rest ih =>
      rw [List.map_cons, List.lookup_cons, List.lookup_cons, ih]
      change (match key == m.1 with | true => _ | false => _) = _
      cases key == m.1 <;> rfl

theorem repeatsKey_eq_false (distinct : (members.map Prod.fst).Nodup) :
    repeatsKey members = false := by
  induction members with
  | nil => rfl
  | cons m rest ih =>
      obtain ⟨fresh, distinct⟩ := List.nodup_cons.mp distinct
      rw [repeatsKey, ih distinct, Bool.or_false, List.any_eq_false]
      intro n member same
      exact fresh (List.mem_map.mpr ⟨n, member, beq_iff_eq.mp same⟩)

/-- Members that are all fields of a record are read as they are. -/
theorem record?_of_known (distinct : (members.map Prod.fst).Nodup)
    (known : ∀ key ∈ members.map Prod.fst, key ∈ fields) :
    record? fields closed (.object members) = some members := by
  have all : members.filter (fun m => fields.contains m.1) = members := by
    rw [List.filter_eq_self]
    intro m member
    rw [List.contains_iff_mem]
    exact known m.1 (List.mem_map_of_mem member)
  simp only [record?, all, repeatsKey_eq_false distinct]
  simp

/-- A member that is no field is passed over, unless the record is closed. -/
theorem record?_cons_of_unknown {m : String × Json} (unknown : m.1 ∉ fields) :
    record? fields false (.object (m :: members)) = record? fields false (.object members) := by
  have dropped : (fields.contains m.1) = false := by simpa using unknown
  simp only [record?, List.filter_cons, dropped, Bool.false_eq_true, ↓reduceIte, Bool.false_and]

/-- A record reads back from its members, sorted and in any order. -/
theorem record?_of_perm (perm : written.Perm (members.map sortedMember))
    (distinct : (members.map Prod.fst).Nodup) (known : ∀ key ∈ members.map Prod.fst, key ∈ fields) :
    record? fields closed (.object written) = some written ∧
      ∀ key, written.lookup key = (members.lookup key).map sorted := by
  have keys : (written.map Prod.fst).Perm (members.map Prod.fst) := by
    rw [← map_fst_sortedMember members]
    exact perm.map Prod.fst
  have distinctWritten := keys.nodup_iff.mpr distinct
  constructor
  · exact record?_of_known distinctWritten fun key member => known key (keys.mem_iff.mp member)
  · intro key
    rw [lookup_of_perm perm distinctWritten, lookup_map_sortedMember]

theorem record?_sorted (fields : List String) (closed : Bool)
    (distinct : (members.map Prod.fst).Nodup)
    (known : ∀ key ∈ members.map Prod.fst, key ∈ fields) :
    ∃ written : Members, (Json.object members).sorted = .object written ∧
      record? fields closed (.object written) = some written ∧
      ∀ key, written.lookup key = (members.lookup key).map sorted := by
  obtain ⟨written, same, perm⟩ := sorted_object_perm distinct
  exact ⟨written, same, record?_of_perm perm distinct known⟩

/-- A tagged record parts into its tag and the record that it tags. -/
theorem tagged?_sorted {key : String} {tag : Json}
    (distinct : (((key, tag) :: members).map Prod.fst).Nodup) :
    ∃ written : Members, tagged? key (Json.object ((key, tag) :: members)).sorted =
        some (tag.sorted, .object written) ∧
      written.Perm (members.map sortedMember) := by
  obtain ⟨all, same, perm⟩ := sorted_object_perm distinct
  obtain ⟨fresh, -⟩ := List.nodup_cons.mp distinct
  have others : ∀ m ∈ members.map sortedMember, (m.1 == key) = false := by
    intro m member
    have inside := List.mem_map_of_mem (f := Prod.fst) member
    rw [map_fst_sortedMember] at inside
    rw [beq_eq_false_iff_ne]
    rintro rfl
    exact fresh inside
  have tags : all.filter (·.1 == key) = [(key, tag.sorted)] := by
    rw [← List.perm_singleton]
    refine (perm.filter _).trans (.of_eq ?_)
    rw [List.map_cons, List.filter_cons_of_pos (by simp [sortedMember]),
      List.filter_eq_nil_iff.mpr (by simpa using others)]
    rfl
  have rest : (all.filter (not ∘ (·.1 == key))).Perm (members.map sortedMember) := by
    refine (perm.filter _).trans (.of_eq ?_)
    rw [List.map_cons, List.filter_cons_of_neg (by simp [sortedMember]), List.filter_eq_self]
    simpa using others
  refine ⟨all.filter (not ∘ (·.1 == key)), ?_, rest⟩
  rw [same, tagged?, List.partition_eq_filter_filter, tags]

/-- A list reads back from its items. -/
theorem list?_sorted {α : Type} {encode : α → Json} {decode : Json → Option α} {as : List α}
    (each : ∀ a ∈ as, decode (encode a).sorted = some a) :
    list? decode (Json.array (as.map encode)).sorted = some as := by
  rw [sorted_array, list?, List.map_map]
  induction as with
  | nil => rfl
  | cons a rest ih =>
      obtain ⟨first, others⟩ := List.forall_mem_cons.mp each
      rw [List.map_cons, List.mapM_cons, ih others]
      simp [first]

theorem list?_strings (texts : List String) :
    list? string? (strings texts) = some texts := by
  induction texts with
  | nil => rfl
  | cons text texts ih =>
      simp only [strings, list?, List.map_cons, List.mapM_cons] at ih ⊢
      rw [ih]
      rfl

end Reading

end SchemaEvolution.Json
