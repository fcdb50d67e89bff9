import Mathlib
import SchemaEvolution.Order.Sorted

/-! # Corresponding lists

Lists that hold the same in another order, and lists whose entries are related one by one.  A search
by key does not see the order (`find?_eq_of_perm`), and what is read off related entries alike is
equal or related again.
-/

namespace SchemaEvolution

section Keys

variable {α κ : Type} [DecidableEq κ] {key : α → κ} {as bs : List α}

/-- Where keys are distinct, an entry is found under its key and nowhere else. -/
theorem find?_eq_some_iff_of_nodup (distinct : (as.map key).Nodup) {k : κ} {a : α} :
    as.find? (key · == k) = some a ↔ a ∈ as ∧ key a = k := by
  constructor
  · intro found
    have matched := List.find?_some found
    exact ⟨List.mem_of_find?_eq_some found, by simpa using matched⟩
  · rintro ⟨member, rfl⟩
    cases found : as.find? (key · == key a) with
    | none => simpa using List.find?_eq_none.mp found a member
    | some b =>
        have matched := List.find?_some found
        rw [List.inj_on_of_nodup_map distinct (List.mem_of_find?_eq_some found) member
          (by simpa using matched)]

/-- Where keys are distinct, the order of the entries does not matter to a search by key. -/
theorem find?_eq_of_perm (perm : as.Perm bs) (distinct : (as.map key).Nodup) (k : κ) :
    as.find? (key · == k) = bs.find? (key · == k) := by
  refine Option.ext fun a => ?_
  rw [find?_eq_some_iff_of_nodup distinct,
    find?_eq_some_iff_of_nodup ((perm.map key).nodup_iff.mp distinct), perm.mem_iff]

/-- Where keys are distinct, looking a key up is to find its entry. -/
theorem lookup_eq_some_iff_of_nodup {β : Type} {entries : List (κ × β)}
    (distinct : (entries.map Prod.fst).Nodup) {k : κ} {b : β} :
    entries.lookup k = some b ↔ (k, b) ∈ entries := by
  induction entries with
  | nil => simp
  | cons entry rest ih =>
      obtain ⟨first, c⟩ := entry
      obtain ⟨fresh, distinct⟩ := List.nodup_cons.mp distinct
      rw [List.lookup_cons, List.mem_cons, Prod.mk.injEq]
      cases same : k == first with
      | true =>
          obtain rfl := beq_iff_eq.mp same
          constructor
          · intro found
            exact .inl ⟨rfl, (Option.some.inj found).symm⟩
          · rintro (⟨-, rfl⟩ | member)
            · rfl
            · exact absurd (List.mem_map_of_mem member) fresh
      | false =>
          rw [ih distinct]
          exact ⟨.inr, fun member => member.resolve_left fun found => by simp [found.1] at same⟩

end Keys

section Related

variable {α β γ : Type} {R : α → β → Prop} {as : List α} {bs : List β}

theorem exists_of_mem_right (related : List.Forall₂ R as bs) {b : β} (member : b ∈ bs) :
    ∃ a ∈ as, R a b := by
  induction related with
  | nil => cases member
  | cons first _ ih =>
      rcases List.mem_cons.mp member with rfl | member
      · exact ⟨_, List.mem_cons_self, first⟩
      · obtain ⟨a, inside, relates⟩ := ih member
        exact ⟨a, List.mem_cons_of_mem _ inside, relates⟩

theorem exists_of_mem_left (related : List.Forall₂ R as bs) {a : α} (member : a ∈ as) :
    ∃ b ∈ bs, R a b := by
  have flipped : List.Forall₂ (flip R) bs as := related.flip
  exact exists_of_mem_right flipped member

theorem exists_getElem?_of_forall₂ (related : List.Forall₂ R as bs) {i : Nat} {a : α}
    (found : as[i]? = some a) : ∃ b, bs[i]? = some b ∧ R a b := by
  induction related generalizing i with
  | nil => simp at found
  | cons first _ ih =>
      cases i with
      | zero =>
          obtain rfl := Option.some.inj found
          exact ⟨_, rfl, first⟩
      | succ i => exact ih found

theorem forall₂_set (related : List.Forall₂ R as bs) (i : Nat) {a : α} {b : β} (fresh : R a b) :
    List.Forall₂ R (as.set i a) (bs.set i b) := by
  induction related generalizing i with
  | nil => exact .nil
  | cons first rest ih =>
      cases i with
      | zero => exact .cons fresh rest
      | succ i => exact .cons first (ih i)

theorem eq_of_forall₂ {R : α → α → Prop} {as bs : List α} (related : List.Forall₂ R as bs)
    (same : ∀ a ∈ as, ∀ b ∈ bs, R a b → a = b) : as = bs := by
  induction related with
  | nil => rfl
  | cons first _ ih =>
      rw [same _ List.mem_cons_self _ List.mem_cons_self first,
        ih fun a before b after =>
          same a (List.mem_cons_of_mem _ before) b (List.mem_cons_of_mem _ after)]

theorem map_eq_of_forall₂ {f : α → γ} {g : β → γ}
    (related : List.Forall₂ (fun a b => f a = g b) as bs) : as.map f = bs.map g := by
  rw [← List.forall₂_eq_eq_eq, List.forall₂_map_left_iff, List.forall₂_map_right_iff]
  exact related

theorem filterMap_eq_of_forall₂ {f : α → Option γ} {g : β → Option γ}
    (related : List.Forall₂ R as bs) (same : ∀ a b, R a b → f a = g b) :
    as.filterMap f = bs.filterMap g := by
  induction related with
  | nil => rfl
  | cons first _ ih => rw [List.filterMap_cons, List.filterMap_cons, same _ _ first, ih]

theorem flatMap_eq_of_forall₂ {f : α → List γ} {g : β → List γ} (related : List.Forall₂ R as bs)
    (same : ∀ a ∈ as, ∀ b, R a b → f a = g b) : as.flatMap f = bs.flatMap g := by
  induction related with
  | nil => rfl
  | cons first _ ih =>
      obtain ⟨head, tail⟩ := List.forall_mem_cons.mp same
      rw [List.flatMap_cons, List.flatMap_cons, head _ first, ih tail]

theorem forall₂_filter {p : α → Bool} {q : β → Bool} (same : ∀ a b, R a b → p a = q b)
    (related : List.Forall₂ R as bs) : List.Forall₂ R (as.filter p) (bs.filter q) :=
  List.rel_filter (fun a b first => by simp [same a b first]) related

theorem rel_find? {p : α → Bool} {q : β → Bool} (same : ∀ a b, R a b → p a = q b)
    (related : List.Forall₂ R as bs) : Option.Rel R (as.find? p) (bs.find? q) := by
  induction related with
  | nil => exact .none
  | @cons a b _ _ first _ ih =>
      rw [List.find?_cons, List.find?_cons, ← same a b first]
      cases p a with
      | true => exact .some first
      | false => exact ih

theorem isSome_eq_of_rel {a : Option α} {b : Option β} (related : Option.Rel R a b) :
    a.isSome = b.isSome := by
  cases related <;> rfl

theorem exists_of_rel {a : α} {b : Option β} (related : Option.Rel R (some a) b) :
    ∃ c, b = some c ∧ R a c := by
  cases related with
  | some related => exact ⟨_, rfl, related⟩

theorem rel_bind {α' β' : Type} {P : α' → β' → Prop} {f : α → Option α'} {g : β → Option β'}
    (same : ∀ a b, R a b → Option.Rel P (f a) (g b)) {a : Option α} {b : Option β}
    (related : Option.Rel R a b) : Option.Rel P (a.bind f) (b.bind g) := by
  cases related with
  | some related => exact same _ _ related
  | none => exact .none

theorem Sorted.forall₂_insertStable {le : α → α → Bool} {le' : β → β → Bool}
    (same : ∀ a b, R a b → ∀ c d, R c d → le a c = le' b d) {a : α} {b : β} (first : R a b)
    (related : List.Forall₂ R as bs) :
    List.Forall₂ R (insertStable le a as) (insertStable le' b bs) := by
  induction related with
  | nil => exact .cons first .nil
  | @cons c d _ _ next rest ih =>
      rw [insertStable, insertStable, ← same a b first c d next]
      cases le a c with
      | true => exact .cons first (.cons next rest)
      | false => exact .cons next ih

/-- Sorting keeps lists related whose entries compare alike. -/
theorem Sorted.forall₂_sortStable {le : α → α → Bool} {le' : β → β → Bool}
    (same : ∀ a b, R a b → ∀ c d, R c d → le a c = le' b d) (related : List.Forall₂ R as bs) :
    List.Forall₂ R (sortStable le as) (sortStable le' bs) := by
  induction related with
  | nil => exact .nil
  | cons first _ ih => exact forall₂_insertStable same first ih

end Related

end SchemaEvolution
