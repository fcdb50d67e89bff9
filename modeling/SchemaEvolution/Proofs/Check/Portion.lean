import SchemaEvolution.Proofs.Check.Findings

/-! # Runs over a portion of the names

A run that was stopped has checked some of the names, in whatever order.  Its report is that of the
whole run as far as these names go (`Registry.reportOn_restricts`).  The order of findings leaves no
choice between findings of different keys (`Finding.key_eq_of_notAfter`), and no two findings of a
run share a key, so a report does not show in which order they were found.
-/

namespace SchemaEvolution

namespace Finding

theorem compare_trans : Std.TransCmp compare := by
  unfold compare
  infer_instance

theorem notAfter_trans (f g h : Finding) (first : f.notAfter g = true)
    (second : g.notAfter h = true) : f.notAfter h = true :=
  compare_trans.isLE_trans first second

theorem notAfter_total (f g : Finding) : f.notAfter g = true ∨ g.notAfter f = true := by
  have oriented := compare_trans.toOrientedCmp
  cases order : f.compare g with
  | lt | eq => exact .inl (by rw [notAfter, order]; rfl)
  | gt => exact .inr (by rw [notAfter, oriented.eq_swap, order]; rfl)

/-- Two findings that may stand in either order are about one rule and one path. -/
theorem key_eq_of_notAfter {f g : Finding} (first : f.notAfter g = true)
    (second : g.notAfter f = true) : f.key = g.key := by
  have oriented := compare_trans.toOrientedCmp
  have tied : f.compare g = .eq := Std.OrientedCmp.isLE_antisymm first second
  simp only [compare, compareLex, compareOn, Ordering.then_eq_eq] at tied
  obtain ⟨-, path, rule, -⟩ := tied
  have texts := Std.LawfulEqCmp.eq_of_compare rule
  have rules : some f.rule = some g.rule := by
    rw [← RuleId.find?_text, ← RuleId.find?_text, texts]
  exact Prod.ext (Option.some.inj rules) (Std.LawfulEqCmp.eq_of_compare path)

@[simp] theorem typeName_grade (escalateAll : Bool) (f : Finding) :
    (f.grade escalateAll).typeName = f.typeName := by
  unfold grade escalate
  cases escalateAll <;> cases f.severity <;> rfl

@[simp] theorem typeName_annotate (base candidate : Snapshot) (f : Finding) :
    (f.annotate base candidate).typeName = f.typeName := by
  unfold annotate
  split <;> rfl

/-- Findings of some kind come out of consolidation in the order in which they come out among all,
    however they went in. -/
theorem consolidate_eq_filter (escalateAll : Bool) {findings part : List Finding}
    {p : Finding → Bool} (graded : ∀ f, p (f.grade escalateAll) = p f)
    (distinct : (findings.map key).Nodup) (perm : part.Perm (findings.filter p)) :
    consolidate escalateAll part = (consolidate escalateAll findings).filter p := by
  have distinctPart : (part.map key).Nodup :=
    (perm.map key).nodup_iff.mpr (distinct.sublist (List.filter_sublist.map key))
  have distinctGraded : ((findings.map (grade escalateAll)).map key).Nodup := by
    simpa [Function.comp_def] using distinct
  rw [consolidate_eq_sortStable escalateAll distinctPart,
    consolidate_eq_sortStable escalateAll distinct]
  have sorted := Sorted.pairwise_sortStable notAfter_trans notAfter_total
  have input : (part.map (grade escalateAll)).Perm
      ((findings.map (grade escalateAll)).filter p) := by
    rw [List.filter_map, show p ∘ grade escalateAll = p from funext graded]
    exact perm.map _
  have same : (Sorted.sortStable notAfter (part.map (grade escalateAll))).Perm
      ((Sorted.sortStable notAfter (findings.map (grade escalateAll))).filter p) :=
    (Sorted.sortStable_perm notAfter _).trans
      (input.trans ((Sorted.sortStable_perm notAfter _).filter p).symm)
  have inside {f : Finding}
      (member : f ∈ (Sorted.sortStable notAfter (findings.map (grade escalateAll))).filter p) :
      f ∈ findings.map (grade escalateAll) :=
    Sorted.mem_sortStable.mp (List.mem_of_mem_filter member)
  refine same.eq_of_pairwise ?_ (sorted _) ((sorted _).filter p)
  intro f g memberF memberG first second
  exact List.inj_on_of_nodup_map distinctGraded (inside (same.mem_iff.mp memberF))
    (inside memberG) (key_eq_of_notAfter first second)

end Finding

section Names

variable {base candidate : Snapshot} {processed : List TypePair}

theorem TypePair.nodup_map_name : ((TypePair.all base candidate).map TypePair.name).Nodup :=
  Sorted.nodup_of_pairwise nameBefore_isStrictOrder (List.pairwise_map.mpr TypePair.pairwise_all)

/-- The names that were not checked are others than those that were. -/
theorem TypePair.exists_rest (part : processed.Subperm (TypePair.all base candidate)) :
    ∃ rest, (TypePair.all base candidate).Perm (processed ++ rest) ∧
      ∀ pair ∈ rest, pair.name ∉ processed.map TypePair.name := by
  obtain ⟨ordered, perm, sublist⟩ := part
  obtain ⟨rest, whole⟩ := sublist.exists_perm_append
  replace whole := whole.trans (perm.append_right rest)
  refine ⟨rest, whole, ?_⟩
  have distinct := (whole.map TypePair.name).nodup_iff.mp TypePair.nodup_map_name
  rw [List.map_append] at distinct
  intro pair unchecked checked
  exact List.disjoint_of_nodup_append distinct checked (List.mem_map_of_mem unchecked)

end Names

theorem Verdict.of_eq_unknown_iff {findings : List Finding} {complete : Bool} :
    Verdict.of findings complete = .unknown ↔ complete = false := by
  cases complete with
  | false => exact ⟨fun _ => rfl, fun _ => rfl⟩
  | true =>
      unfold Verdict.of
      split
      · contradiction
      · split <;> simp

/-- How the report of a run over some of the names has to agree with that of the whole run. -/
structure Report.Restricts (part whole : Report) (all processed : List TypePair) : Prop where
  findings : part.findings =
    whole.findings.filter fun f => f.typeName ∈ processed.map TypePair.name
  stats : part.stats = .sum (processed.map fun pair => (TypeDiff.of pair).stats)
  unknown : part.verdict = .unknown ↔ ∃ pair ∈ all, pair ∉ processed
  whole : (∀ pair ∈ all, pair ∈ processed) → part = whole

instance : Zero DiffStats := ⟨.zero⟩

/-- Counts add up in any order. -/
instance : AddCommMonoid DiffStats where
  add_assoc a b c := by
    change (a.add b).add c = a.add (b.add c)
    simp [DiffStats.add, Nat.add_assoc]
  zero_add a := by
    change DiffStats.zero.add a = a
    simp [DiffStats.add, DiffStats.zero]
  add_zero a := by
    change a.add .zero = a
    simp [DiffStats.add, DiffStats.zero]
  add_comm a b := by
    change a.add b = b.add a
    simp [DiffStats.add, Nat.add_comm]
  nsmul := nsmulRec

theorem DiffStats.sum_eq (stats : List DiffStats) : DiffStats.sum stats = stats.sum := rfl

namespace Registry

variable {r : Registry} {base candidate : Snapshot} {processed : List TypePair} {f : Finding}

theorem typeName_of_mem_evaluate {d : TypeDiff} (found : f ∈ r.evaluate base candidate d) :
    f.typeName = d.name := by
  obtain ⟨event, -, id, -, found⟩ := mem_evaluate_iff.mp found
  obtain ⟨o, rfl⟩ := exists_finding_of_findingOf found
  rfl

/-- What is found in some of the names is what of all findings is about them. -/
theorem flatMap_evaluate_perm (part : processed.Subperm (TypePair.all base candidate)) :
    (processed.flatMap fun pair => r.evaluate base candidate (.of pair)).Perm
      ((r.rawFindings base candidate).filter fun f =>
        f.typeName ∈ processed.map TypePair.name) := by
  obtain ⟨rest, whole, others⟩ := TypePair.exists_rest part
  have raw := (whole.flatMap_right fun pair => r.evaluate base candidate (.of pair)).filter fun f =>
    decide (f.typeName ∈ processed.map TypePair.name)
  rw [List.flatMap_append, List.filter_append] at raw
  have kept : (processed.flatMap fun pair => r.evaluate base candidate (.of pair)).filter
      (fun f => decide (f.typeName ∈ processed.map TypePair.name)) =
        processed.flatMap fun pair => r.evaluate base candidate (.of pair) := by
    rw [List.filter_eq_self]
    intro f found
    obtain ⟨pair, member, found⟩ := List.mem_flatMap.mp found
    rw [decide_eq_true_iff, typeName_of_mem_evaluate found]
    exact List.mem_map_of_mem member
  have dropped : (rest.flatMap fun pair => r.evaluate base candidate (.of pair)).filter
      (fun f => decide (f.typeName ∈ processed.map TypePair.name)) = [] := by
    rw [List.filter_eq_nil_iff]
    intro f found
    obtain ⟨pair, member, found⟩ := List.mem_flatMap.mp found
    rw [decide_eq_true_iff, typeName_of_mem_evaluate found]
    exact others pair member
  rw [kept, dropped, List.append_nil] at raw
  exact raw.symm

theorem reportOn_findings (generatedAt : Timestamp) :
    (r.reportOn base candidate processed generatedAt).findings =
      (Finding.consolidate r.settings.treatAdvisoryAsError
        (processed.flatMap fun pair => r.evaluate base candidate (.of pair))).map
          (Finding.annotate base candidate) := by
  simp [reportOn, Report.assemble, examine, List.flatMap_map]

/-- A run over all names, in whatever order, makes the report of the whole run. -/
theorem reportOn_eq_check (distinct : r.rules.Nodup) (validBase : base.Valid)
    (validCandidate : candidate.Valid) (perm : processed.Perm (TypePair.all base candidate))
    (generatedAt : Timestamp) :
    r.reportOn base candidate processed generatedAt = r.check base candidate generatedAt := by
  have found := perm.flatMap_right fun pair => r.evaluate base candidate (.of pair)
  have findings : Finding.consolidate r.settings.treatAdvisoryAsError
      (processed.flatMap fun pair => r.evaluate base candidate (.of pair)) =
        Finding.consolidate r.settings.treatAdvisoryAsError (r.rawFindings base candidate) := by
    rw [Finding.consolidate_eq_filter _ (p := fun _ => true) (fun _ => rfl)
      (nodup_key_rawFindings distinct validBase validCandidate), List.filter_true]
    rwa [List.filter_true]
  have stats := (perm.map fun pair => (TypeDiff.of pair).stats).sum_eq
  unfold check reportOn
  simp only [List.flatMap_map, List.map_map, Function.comp_def, examine, DiffStats.sum_eq]
  rw [stats, perm.length_eq]
  unfold Report.assemble
  rw [findings]
  rfl

theorem reportOn_restricts (distinct : r.rules.Nodup) (validBase : base.Valid)
    (validCandidate : candidate.Valid) (part : processed.Subperm (TypePair.all base candidate))
    (generatedAt : Timestamp) :
    (r.reportOn base candidate processed generatedAt).Restricts
      (r.check base candidate generatedAt) (TypePair.all base candidate) processed := by
  obtain ⟨rest, whole, others⟩ := TypePair.exists_rest part
  have unchecked : (∃ pair ∈ TypePair.all base candidate, pair ∉ processed) ↔ rest ≠ [] := by
    constructor
    · intro ⟨pair, member, missing⟩ none
      rw [whole.mem_iff, none, List.append_nil] at member
      exact missing member
    · intro some
      obtain ⟨pair, member⟩ := List.exists_mem_of_ne_nil rest some
      exact ⟨pair, whole.mem_iff.mpr (List.mem_append_right _ member),
        fun checked => others pair member (List.mem_map_of_mem checked)⟩
  constructor
  · rw [reportOn_findings, check_findings, List.filter_map,
      Finding.consolidate_eq_filter _ _ (nodup_key_rawFindings distinct validBase validCandidate)
        (flatMap_evaluate_perm part)]
    · simp only [Function.comp_def, Finding.typeName_annotate]
    · intro f
      simp only [Finding.typeName_grade]
  · simp [reportOn, Report.assemble, examine, Function.comp_def]
  · have lengths := whole.length_eq
    rw [List.length_append] at lengths
    rw [unchecked, ← List.length_pos_iff]
    rw [reportOn, Report.assemble, Verdict.of_eq_unknown_iff, beq_eq_false_iff_ne]
    omega
  · intro all
    have none : rest = [] := by
      by_contra some
      obtain ⟨pair, member, missing⟩ := unchecked.mpr some
      exact missing (all pair member)
    rw [none, List.append_nil] at whole
    exact reportOn_eq_check distinct validBase validCandidate whole.symm generatedAt

end Registry

end SchemaEvolution
