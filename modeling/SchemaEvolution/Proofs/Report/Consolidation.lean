import SchemaEvolution.Proofs.Check.Portion
import SchemaEvolution.Proofs.Order.Stable

/-! # Consolidated findings

Consolidation puts findings into the order of their sort keys and keeps one for each rule and path:
the one that leads all findings with its key (`Finding.mem_consolidate_iff`).  As severity comes
first in the order, that is one of the gravest.  What comes out is in order and has distinct keys, so
a second consolidation finds nothing to do.  Main statement: `consolidation_keeps_the_gravest`.
-/

namespace SchemaEvolution

section Keys

/-- A text that may be missing.  A missing one comes before any other. -/
def missingFirst (text : Option String) : WithBot String := text

theorem compare_missingFirst (a b : Option String) :
    compare (missingFirst a) (missingFirst b) = compare a b := by
  cases a with
  | none =>
      cases b with
      | none => rfl
      | some b => exact compare_lt_iff_lt.mpr (WithBot.bot_lt_coe b)
  | some a =>
      cases b with
      | none => exact compare_gt_iff_gt.mpr (WithBot.bot_lt_coe a)
      | some b =>
          change compare (a : WithBot String) (b : WithBot String) = compare a b
          rcases lt_trichotomy a b with lower | rfl | higher
          · rw [compare_lt_iff_lt.mpr lower, compare_lt_iff_lt.mpr (WithBot.coe_lt_coe.mpr lower)]
          · rw [compare_eq_iff_eq.mpr rfl, compare_eq_iff_eq.mpr rfl]
          · rw [compare_gt_iff_gt.mpr higher, compare_gt_iff_gt.mpr (WithBot.coe_lt_coe.mpr higher)]

/-- To compare two things first and two others then is to compare pairs from the left. -/
theorem isLE_then_iff {β γ : Type} [LinearOrder β] [LE γ] {a b : β} {c d : γ}
    {first rest : Ordering} (head : compare a b = first) (tail : rest.isLE = true ↔ c ≤ d) :
    (first.then rest).isLE = true ↔ toLex (a, c) ≤ toLex (b, d) := by
  rw [Prod.Lex.toLex_le_toLex, ← head]
  rcases lt_trichotomy a b with lower | rfl | higher
  · simp [compare_lt_iff_lt.mpr lower, lower]
  · simp [tail]
  · simp [compare_gt_iff_gt.mpr higher, higher.not_gt, higher.ne']

end Keys

namespace Finding

/-- What tells two findings apart that are equally grave and share a key. -/
def wording (f : Finding) : String ×ₗ WithBot String ×ₗ WithBot String :=
  toLex (f.message, toLex (missingFirst f.oldValue, missingFirst f.newValue))

/-- Where a finding stands in a report: the gravest first, then by path, by the name of the rule and
    by what is said. -/
def sortKey (f : Finding) :
    ℕ ×ₗ String ×ₗ String ×ₗ String ×ₗ WithBot String ×ₗ WithBot String :=
  toLex (f.severity.place, toLex (f.path, toLex (f.rule.text, f.wording)))

theorem notAfter_iff {f g : Finding} : f.notAfter g = true ↔ f.sortKey ≤ g.sortKey := by
  have last : (Ord.compare f.newValue g.newValue).isLE = true ↔
      missingFirst f.newValue ≤ missingFirst g.newValue := by
    rw [← compare_missingFirst, Ordering.isLE_iff_ne_gt]
    exact compare_le_iff_le
  exact isLE_then_iff rfl <| isLE_then_iff rfl <| isLE_then_iff rfl <| isLE_then_iff rfl <|
    isLE_then_iff (compare_missingFirst _ _) last

/-- A finding is kept exactly if it is the first one with its key. -/
theorem mem_firstOfEach_iff {f : Finding} {findings : List Finding} :
    f ∈ firstOfEach findings ↔ (findings.filter (·.key == f.key)).head? = some f := by
  induction findings with
  | nil => simp [firstOfEach]
  | cons g rest ih =>
      rw [firstOfEach, List.mem_cons, List.mem_filter, ih, bne_iff_ne]
      by_cases same : g.key = f.key
      · rw [List.filter_cons, if_pos (beq_iff_eq.mpr same), List.head?_cons, Option.some.injEq]
        constructor
        · rintro (first | ⟨-, differ⟩)
          · exact first.symm
          · exact absurd same.symm differ
        · intro first
          exact .inl first.symm
      · have differ : f ≠ g := fun first => same (congrArg key first.symm)
        rw [List.filter_cons, if_neg (by simpa using same)]
        simp [differ, Ne.symm same]

theorem firstOfEach_sublist (findings : List Finding) :
    (firstOfEach findings).Sublist findings := by
  induction findings with
  | nil => exact .slnil
  | cons f rest ih => exact (List.filter_sublist.trans ih).cons_cons f

theorem nodup_key_firstOfEach (findings : List Finding) :
    ((firstOfEach findings).map key).Nodup := by
  induction findings with
  | nil => exact List.nodup_nil
  | cons f rest ih =>
      rw [firstOfEach, List.map_cons, List.nodup_cons]
      refine ⟨?_, ih.sublist (List.filter_sublist.map key)⟩
      intro again
      obtain ⟨g, member, same⟩ := List.mem_map.mp again
      exact bne_iff_ne.mp (List.mem_filter.mp member).2 same

/-- No key is lost. -/
theorem exists_mem_firstOfEach {f : Finding} {findings : List Finding} (member : f ∈ findings) :
    ∃ g ∈ firstOfEach findings, g.key = f.key := by
  have some : findings.filter (·.key == f.key) ≠ [] :=
    List.ne_nil_of_mem (List.mem_filter.mpr ⟨member, beq_self_eq_true _⟩)
  obtain ⟨g, rest, split⟩ := List.exists_cons_of_ne_nil some
  have inside : g ∈ findings.filter (·.key == f.key) := split ▸ List.mem_cons_self
  have same : g.key = f.key := beq_iff_eq.mp (List.mem_filter.mp inside).2
  refine ⟨g, mem_firstOfEach_iff.mpr ?_, same⟩
  rw [same, split, List.head?_cons]

section Consolidate

variable {escalateAll : Bool} {findings : List Finding} {f : Finding}

/-- The finding that is kept leads the graded findings with its key. -/
theorem mem_consolidate_iff :
    f ∈ consolidate escalateAll findings ↔
      Sorted.Leads notAfter ((findings.map (grade escalateAll)).filter (·.key == f.key)) f := by
  rw [consolidate_eq_firstOfEach, mem_firstOfEach_iff,
    Sorted.filter_sortStable notAfter_trans notAfter_total,
    Sorted.head?_sortStable_iff notAfter_trans notAfter_total]

theorem exists_grade_of_mem_consolidate (kept : f ∈ consolidate escalateAll findings) :
    ∃ g ∈ findings, g.grade escalateAll = f :=
  List.mem_map.mp (List.mem_of_mem_filter (mem_consolidate_iff.mp kept).mem)

/-- Nothing with the key of a finding that is kept comes before it. -/
theorem sortKey_le_of_mem_consolidate (kept : f ∈ consolidate escalateAll findings) {g : Finding}
    (member : g ∈ findings) (same : g.key = f.key) :
    f.sortKey ≤ (g.grade escalateAll).sortKey := by
  refine notAfter_iff.mp ((mem_consolidate_iff.mp kept).le_of_mem notAfter_total ?_)
  exact List.mem_filter.mpr ⟨List.mem_map_of_mem member, by simpa using same⟩

theorem pairwise_consolidate (escalateAll : Bool) (findings : List Finding) :
    (consolidate escalateAll findings).Pairwise fun f g => f.notAfter g = true := by
  rw [consolidate_eq_firstOfEach]
  exact (Sorted.pairwise_sortStable notAfter_trans notAfter_total _).sublist
    (firstOfEach_sublist _)

theorem nodup_key_consolidate (escalateAll : Bool) (findings : List Finding) :
    ((consolidate escalateAll findings).map key).Nodup := by
  rw [consolidate_eq_firstOfEach]
  exact nodup_key_firstOfEach _

theorem exists_mem_consolidate (escalateAll : Bool) (member : f ∈ findings) :
    ∃ g ∈ consolidate escalateAll findings, g.key = f.key := by
  have inside : f.grade escalateAll ∈
      Sorted.sortStable notAfter (findings.map (grade escalateAll)) :=
    Sorted.mem_sortStable.mpr (List.mem_map_of_mem member)
  obtain ⟨g, kept, same⟩ := exists_mem_firstOfEach inside
  rw [consolidate_eq_firstOfEach]
  exact ⟨g, kept, same.trans (key_grade escalateAll f)⟩

theorem mem_keys_consolidate_iff {k : RuleId × String} :
    k ∈ (consolidate escalateAll findings).map key ↔ k ∈ findings.map key := by
  simp only [List.mem_map]
  constructor
  · rintro ⟨f, kept, rfl⟩
    obtain ⟨g, member, rfl⟩ := exists_grade_of_mem_consolidate kept
    exact ⟨g, member, (key_grade escalateAll g).symm⟩
  · rintro ⟨f, member, rfl⟩
    exact exists_mem_consolidate escalateAll member

theorem grade_grade (escalateAll : Bool) (f : Finding) :
    (f.grade escalateAll).grade escalateAll = f.grade escalateAll := by
  unfold grade escalate
  cases escalateAll <;> cases grave : f.severity <;> simp [grave]

/-- What was consolidated is in order, and nothing in it is repeated or left to be raised. -/
theorem consolidate_consolidate (escalateAll : Bool) (findings : List Finding) :
    consolidate escalateAll (consolidate escalateAll findings) =
      consolidate escalateAll findings := by
  have raised : (consolidate escalateAll findings).map (grade escalateAll) =
      consolidate escalateAll findings := by
    refine (List.map_congr_left fun f kept => ?_).trans (List.map_id _)
    obtain ⟨g, -, rfl⟩ := exists_grade_of_mem_consolidate kept
    exact grade_grade escalateAll g
  rw [consolidate_eq_sortStable escalateAll (nodup_key_consolidate escalateAll findings), raised,
    Sorted.sortStable_of_pairwise (pairwise_consolidate escalateAll findings)]

end Consolidate

/-- What is to be kept of some findings that are not raised. -/
structure Consolidates (findings kept : List Finding) : Prop where
  sorted : kept.Pairwise fun f g => f.sortKey ≤ g.sortKey
  distinct : (kept.map key).Nodup
  keys : ∀ k, k ∈ kept.map key ↔ k ∈ findings.map key
  taken : ∀ f ∈ kept, f ∈ findings
  gravest : ∀ f ∈ kept, ∀ g ∈ findings, g.key = f.key → g.severity = .breaking →
    f.severity = .breaking

theorem consolidates_consolidate (findings : List Finding) :
    Consolidates findings (consolidate false findings) where
  sorted := (pairwise_consolidate false findings).imp notAfter_iff.mp
  distinct := nodup_key_consolidate false findings
  keys _ := mem_keys_consolidate_iff
  taken f kept := by
    obtain ⟨g, member, rfl⟩ := exists_grade_of_mem_consolidate kept
    exact member
  gravest f kept g member same grave := by
    have before := Prod.Lex.toLex_le_toLex.mp (sortKey_le_of_mem_consolidate kept member same)
    have places : f.severity.place ≤ g.severity.place :=
      before.elim Nat.le_of_lt fun tied => Nat.le_of_eq tied.1
    exact Severity.eq_breaking_of_place_le places grave

end Finding

/-- Consolidation keeps one finding for each rule and path, as it came and as grave as any with its
    key, in the order of the sort keys; and to consolidate once more changes nothing, whether
    findings are raised or not. -/
theorem consolidation_keeps_the_gravest (findings : List Finding) :
    Finding.Consolidates findings (Finding.consolidate false findings) ∧
      ∀ escalateAll,
        Finding.consolidate escalateAll (Finding.consolidate escalateAll findings) =
          Finding.consolidate escalateAll findings :=
  ⟨Finding.consolidates_consolidate findings,
    fun escalateAll => Finding.consolidate_consolidate escalateAll findings⟩

end SchemaEvolution
