import SchemaEvolution.Proofs.Check.Portion
import SchemaEvolution.Proofs.Rule.Consultation

/-! # Findings rule by rule

What a rule finds depends neither on which other rules run nor on how these are graded.  Registries
that agree on some rules find the same with them (`AgreesOn.filter_rawFindings`), and a report
shows it in the same order among whatever else it holds (`AgreesOn.filter_findings`).  Where the
findings of two runs are related one by one, so are those of the two reports, up to their order
(`pairedOff_findings`).
-/

namespace SchemaEvolution

namespace Finding

@[simp] theorem rule_grade (escalateAll : Bool) (f : Finding) :
    (f.grade escalateAll).rule = f.rule :=
  congrArg Prod.fst (key_grade escalateAll f)

@[simp] theorem rule_annotate (base candidate : Snapshot) (f : Finding) :
    (f.annotate base candidate).rule = f.rule :=
  congrArg Prod.fst (key_annotate base candidate f)

/-- Each finding of one list has one of the other list to itself that it is related to. -/
def PairedOff (R : Finding → Finding → Prop) (fs gs : List Finding) : Prop :=
  ∃ order, gs.Perm order ∧ List.Forall₂ R fs order

end Finding

namespace Registry

variable {r s : Registry} {base candidate : Snapshot}

/-- Registries that run the same of some rules, in contexts in which these read the same, and that
    grade them alike. -/
structure AgreesOn (keep : RuleId → Bool) (r s : Registry) : Prop where
  rules : r.rules.filter keep = s.rules.filter keep
  threshold : r.settings.fieldCountThreshold = s.settings.fieldCountThreshold
  tolerance : keep .typeChange = true → r.settings.allowNarrowing = s.settings.allowNarrowing
  severities : ∀ id, keep id = true → ∀ o, r.severities.get id o = s.severities.get id o

theorem rule_of_findingOf {ctx : RuleContext} {name : String} {event : ChangeEvent} {id : RuleId}
    {f : Finding} (found : r.findingOf ctx name event id = some f) : f.rule = id :=
  congrArg Prod.fst (key_of_findingOf found)

/-- The findings of some rules are those of a run of these rules alone. -/
theorem filter_filterMap_findingOf (keep : RuleId → Bool) (ctx : RuleContext) (name : String)
    (event : ChangeEvent) (rules : List RuleId) :
    (rules.filterMap (r.findingOf ctx name event)).filter (fun f => keep f.rule) =
      (rules.filter keep).filterMap (r.findingOf ctx name event) := by
  rw [List.filter_filterMap, List.filterMap_filter]
  refine List.filterMap_congr fun id _ => ?_
  cases found : r.findingOf ctx name event id with
  | none => simp
  | some f => simp [Option.filter, rule_of_findingOf found]

theorem filter_rawFindings (keep : RuleId → Bool) :
    (r.rawFindings base candidate).filter (fun f => keep f.rule) =
      (TypePair.all base candidate).flatMap fun pair => (TypeDiff.of pair).events.flatMap
        fun event => (r.rules.filter keep).filterMap
          (r.findingOf (r.context base candidate) pair.name event) := by
  simp only [rawFindings, evaluate, List.filter_flatMap, filter_filterMap_findingOf]
  rfl

namespace AgreesOn

variable {keep : RuleId → Bool} (agrees : AgreesOn keep r s)
include agrees

theorem findingOf_eq {id : RuleId} (kept : keep id = true) (name : String) (event : ChangeEvent) :
    r.findingOf (r.context base candidate) name event id =
      s.findingOf (s.context base candidate) name event id := by
  have contexts : (r.context base candidate).Agrees (s.context base candidate) :=
    ⟨rfl, rfl, agrees.threshold⟩
  have checked := RuleId.check_eq_of_agrees contexts
    (fun isTypes => agrees.tolerance (isTypes ▸ kept)) event
  have graded : r.finding name event id = s.finding name event id := by
    funext o
    rw [finding, finding, agrees.severities id kept]
  rw [findingOf, findingOf, checked, graded]

theorem filter_rawFindings :
    (r.rawFindings base candidate).filter (fun f => keep f.rule) =
      (s.rawFindings base candidate).filter fun f => keep f.rule := by
  rw [Registry.filter_rawFindings, Registry.filter_rawFindings, agrees.rules]
  congr 1
  funext pair
  congr 1
  funext event
  exact List.filterMap_congr fun id member =>
    agrees.findingOf_eq (List.mem_filter.mp member).2 pair.name event

end AgreesOn

/-- Where the rules of two runs make related findings of every event, all findings of the runs are
    related one by one. -/
theorem forall₂_rawFindings {R : Finding → Finding → Prop} (rules : r.rules = s.rules)
    (validBase : base.Valid) (validCandidate : candidate.Valid)
    (related : ∀ name event, Happens base candidate name event → ∀ id ∈ r.rules,
      Option.Rel R (r.findingOf (r.context base candidate) name event id)
        (s.findingOf (s.context base candidate) name event id)) :
    List.Forall₂ R (r.rawFindings base candidate) (s.rawFindings base candidate) := by
  unfold rawFindings evaluate
  rw [← rules]
  refine List.rel_flatMap (R := fun p q => p = q ∧ p ∈ TypePair.all base candidate)
    (List.forall₂_same.mpr fun pair member => ⟨rfl, member⟩) ?_
  rintro pair _ ⟨rfl, member⟩
  refine List.rel_flatMap (R := fun d e => d = e ∧ d ∈ (TypeDiff.of pair).events)
    (List.forall₂_same.mpr fun event emitted => ⟨rfl, emitted⟩) ?_
  rintro event _ ⟨rfl, emitted⟩
  have happens := (happens_iff_mem_events validBase validCandidate).mpr
    ⟨pair, member, rfl, emitted⟩
  refine List.rel_filterMap (R := fun i j => i = j ∧ i ∈ r.rules) ?_
    (List.forall₂_same.mpr fun id enabled => ⟨rfl, enabled⟩)
  rintro id _ ⟨rfl, enabled⟩
  exact related pair.name event happens id enabled

section Reports

variable (distinct : r.rules.Nodup) (validBase : base.Valid) (validCandidate : candidate.Valid)
include distinct validBase validCandidate

theorem filter_check_findings (keep : RuleId → Bool) (generatedAt : Timestamp) :
    (r.check base candidate generatedAt).findings.filter (fun f => keep f.rule) =
      (Finding.consolidate r.settings.treatAdvisoryAsError
        ((r.rawFindings base candidate).filter fun f => keep f.rule)).map
          (Finding.annotate base candidate) := by
  have raw := nodup_key_rawFindings distinct validBase validCandidate
  rw [check_findings, List.filter_map, Finding.consolidate_eq_filter _ _ raw (.refl _)]
  · simp only [Function.comp_def, Finding.rule_annotate]
  · intro f
    simp only [Finding.rule_grade]

/-- Registries that agree on some rules report the same of them, in the same order. -/
theorem AgreesOn.filter_findings {keep : RuleId → Bool} (agrees : AgreesOn keep r s)
    (distinctToo : s.rules.Nodup)
    (raised : r.settings.treatAdvisoryAsError = s.settings.treatAdvisoryAsError)
    (generatedAt : Timestamp) :
    (r.check base candidate generatedAt).findings.filter (fun f => keep f.rule) =
      (s.check base candidate generatedAt).findings.filter fun f => keep f.rule := by
  rw [filter_check_findings distinct validBase validCandidate,
    filter_check_findings distinctToo validBase validCandidate, raised, agrees.filter_rawFindings]

/-- What relates the findings of two runs one by one, once they are graded and annotated, pairs off
    those of the two reports. -/
theorem pairedOff_findings {R : Finding → Finding → Prop} (distinctToo : s.rules.Nodup)
    (related : List.Forall₂
      (fun f g => R ((f.grade r.settings.treatAdvisoryAsError).annotate base candidate)
        ((g.grade s.settings.treatAdvisoryAsError).annotate base candidate))
      (r.rawFindings base candidate) (s.rawFindings base candidate)) (generatedAt : Timestamp) :
    Finding.PairedOff R (r.check base candidate generatedAt).findings
      (s.check base candidate generatedAt).findings := by
  have permR := check_findings_perm distinct validBase validCandidate generatedAt
  have permS := check_findings_perm distinctToo validBase validCandidate generatedAt
  have maps : List.Forall₂ R
      ((r.rawFindings base candidate).map fun f =>
        (f.grade r.settings.treatAdvisoryAsError).annotate base candidate)
      ((s.rawFindings base candidate).map fun f =>
        (f.grade s.settings.treatAdvisoryAsError).annotate base candidate) := by
    rwa [List.forall₂_map_left_iff, List.forall₂_map_right_iff]
  obtain ⟨order, paired, perm⟩ := List.perm_comp_forall₂ permR maps
  exact ⟨order, permS.trans perm.symm, paired⟩

end Reports

end Registry

end SchemaEvolution
