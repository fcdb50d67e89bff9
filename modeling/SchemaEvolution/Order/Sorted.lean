/-! # Sorted lists

Insertion into ordered lists, in two forms.  `insertDistinct` keeps one entry per place in the
order, so a list built with it stands for a set.  `insertStable` keeps every entry and leaves
equal ones in the order in which they came, so a list built with it is a stable sort.

The lemmas say what either form holds (`mem_sortDistinct`, `sortStable_perm`) and that it is in
order (`pairwise_sortDistinct`, `pairwise_sortStable`).  A strictly ordered list is determined by
its members (`eq_of_mem_iff`).
-/

namespace SchemaEvolution.Sorted

variable {α : Type}

/-- Insert into a strictly ordered list.  An entry that is already there is kept once. -/
def insertDistinct (lt : α → α → Bool) (a : α) : List α → List α
  | [] => [a]
  | b :: bs =>
    if lt a b then a :: b :: bs
    else if lt b a then b :: insertDistinct lt a bs
    else b :: bs

/-- The entries of a list in strict order, each once. -/
def sortDistinct (lt : α → α → Bool) (as : List α) : List α :=
  as.foldr (insertDistinct lt) []

/-- Insert in front of the first entry that is not smaller. -/
def insertStable (le : α → α → Bool) (a : α) : List α → List α
  | [] => [a]
  | b :: bs => if le a b then a :: b :: bs else b :: insertStable le a bs

/-- Sort, leaving equal entries in the order in which they came. -/
def sortStable (le : α → α → Bool) (as : List α) : List α :=
  as.foldr (insertStable le) []

/-- What the order of a set of entries has to satisfy: nothing is before itself, and two entries
    of which neither is first are one. -/
structure IsStrictOrder (lt : α → α → Bool) : Prop where
  irrefl : ∀ a, lt a a = false
  trans : ∀ a b c, lt a b = true → lt b c = true → lt a c = true
  eq_of_neither : ∀ a b, lt a b = false → lt b a = false → a = b

theorem IsStrictOrder.asymm {lt : α → α → Bool} (order : IsStrictOrder lt) {a b : α}
    (before : lt a b = true) : lt b a = false := by
  cases after : lt b a with
  | true => rw [← order.irrefl a, order.trans a b a before after]
  | false => rfl

theorem IsStrictOrder.before_of_notBefore {lt : α → α → Bool} (order : IsStrictOrder lt)
    {a b c : α} (notBefore : lt b a = false) (before : lt b c = true) : lt a c = true := by
  cases less : lt a b with
  | true => exact order.trans a b c less before
  | false =>
    obtain rfl := order.eq_of_neither a b less notBefore
    exact before

theorem mem_insertDistinct {lt : α → α → Bool} (order : IsStrictOrder lt) {a x : α}
    {as : List α} : x ∈ insertDistinct lt a as ↔ x = a ∨ x ∈ as := by
  induction as with
  | nil => simp [insertDistinct]
  | cons b bs ih =>
    simp only [insertDistinct]
    split
    · simp
    · split
      · simp only [List.mem_cons, ih]
        exact ⟨fun h => h.elim (fun h => .inr (.inl h)) (fun h => h.elim .inl (.inr ∘ .inr)),
          fun h => h.elim (.inr ∘ .inl) (fun h => h.elim .inl (.inr ∘ .inr))⟩
      · have same : a = b := order.eq_of_neither a b (by simp_all) (by simp_all)
        subst same
        simp

theorem mem_sortDistinct {lt : α → α → Bool} (order : IsStrictOrder lt) {x : α}
    {as : List α} : x ∈ sortDistinct lt as ↔ x ∈ as := by
  induction as with
  | nil => simp [sortDistinct]
  | cons a as ih =>
    have step : sortDistinct lt (a :: as) = insertDistinct lt a (sortDistinct lt as) := rfl
    rw [step, mem_insertDistinct order, ih, List.mem_cons]

theorem pairwise_insertDistinct {lt : α → α → Bool} (order : IsStrictOrder lt) {a : α}
    {as : List α} (sorted : as.Pairwise (lt · · = true)) :
    (insertDistinct lt a as).Pairwise (lt · · = true) := by
  induction as with
  | nil => simp [insertDistinct]
  | cons b bs ih =>
    have ⟨below, tail⟩ := List.pairwise_cons.mp sorted
    simp only [insertDistinct]
    split
    case isTrue first =>
      refine List.pairwise_cons.mpr ⟨?_, sorted⟩
      intro x member
      rcases List.mem_cons.mp member with rfl | member
      · exact first
      · exact order.trans _ _ _ first (below x member)
    case isFalse =>
      split
      case isTrue second =>
        refine List.pairwise_cons.mpr ⟨?_, ih tail⟩
        intro x member
        rcases (mem_insertDistinct order).mp member with rfl | member
        · exact second
        · exact below x member
      case isFalse => exact sorted

theorem pairwise_sortDistinct {lt : α → α → Bool} (order : IsStrictOrder lt) (as : List α) :
    (sortDistinct lt as).Pairwise (lt · · = true) := by
  induction as with
  | nil => exact List.Pairwise.nil
  | cons a as ih => exact pairwise_insertDistinct order ih

theorem nodup_of_pairwise {lt : α → α → Bool} (order : IsStrictOrder lt) {as : List α}
    (sorted : as.Pairwise (lt · · = true)) : as.Nodup := by
  refine sorted.imp ?_
  intro a b before same
  subst same
  simp [order.irrefl] at before

/-- A strictly ordered list is determined by its members. -/
theorem eq_of_mem_iff {lt : α → α → Bool} (order : IsStrictOrder lt) {as bs : List α}
    (sortedA : as.Pairwise (lt · · = true)) (sortedB : bs.Pairwise (lt · · = true))
    (same : ∀ x, x ∈ as ↔ x ∈ bs) : as = bs := by
  have perm : as.Perm bs :=
    (List.perm_ext_iff_of_nodup (nodup_of_pairwise order sortedA)
      (nodup_of_pairwise order sortedB)).mpr same
  refine perm.eq_of_pairwise ?_ sortedA sortedB
  intro a b _ _ ab ba
  have := order.trans a b a ab ba
  simp [order.irrefl] at this

theorem insertStable_perm (le : α → α → Bool) (a : α) (as : List α) :
    (insertStable le a as).Perm (a :: as) := by
  induction as with
  | nil => exact .refl _
  | cons b bs ih =>
    simp only [insertStable]
    split
    · exact .refl _
    · exact (ih.cons b).trans (.swap a b bs)

/-- Sorting neither loses nor invents an entry. -/
theorem sortStable_perm (le : α → α → Bool) (as : List α) : (sortStable le as).Perm as := by
  induction as with
  | nil => exact .refl _
  | cons a as ih => exact (insertStable_perm le a _).trans (ih.cons a)

theorem mem_sortStable {le : α → α → Bool} {x : α} {as : List α} :
    x ∈ sortStable le as ↔ x ∈ as :=
  (sortStable_perm le as).mem_iff

theorem pairwise_insertStable {le : α → α → Bool}
    (trans : ∀ a b c, le a b = true → le b c = true → le a c = true)
    (total : ∀ a b, le a b = true ∨ le b a = true) {a : α} {as : List α}
    (sorted : as.Pairwise (le · · = true)) :
    (insertStable le a as).Pairwise (le · · = true) := by
  induction as with
  | nil => simp [insertStable]
  | cons b bs ih =>
    have ⟨below, tail⟩ := List.pairwise_cons.mp sorted
    simp only [insertStable]
    split
    case isTrue first =>
      refine List.pairwise_cons.mpr ⟨?_, sorted⟩
      intro x member
      rcases List.mem_cons.mp member with rfl | member
      · exact first
      · exact trans _ _ _ first (below x member)
    case isFalse later =>
      refine List.pairwise_cons.mpr ⟨?_, ih tail⟩
      intro x member
      rcases List.mem_cons.mp ((insertStable_perm le a bs).mem_iff.mp member) with rfl | member
      · exact (total x b).resolve_left later
      · exact below x member

theorem pairwise_sortStable {le : α → α → Bool}
    (trans : ∀ a b c, le a b = true → le b c = true → le a c = true)
    (total : ∀ a b, le a b = true ∨ le b a = true) (as : List α) :
    (sortStable le as).Pairwise (le · · = true) := by
  induction as with
  | nil => exact List.Pairwise.nil
  | cons a as ih => exact pairwise_insertStable trans total ih

end SchemaEvolution.Sorted
