import SchemaEvolution.Proofs.Check.RuleByRule
import SchemaEvolution.Proofs.Check.Silence

/-! # Raised findings

A run that raises advisory findings to breaking ones grades what it finds anew and does nothing
else.  The rules do not see whether findings are raised, and no two findings of a run share a key,
so none is lost to another one in the new order.  The required step looks through the raised
grades (`check_requiredBump_eq`).  Main statement: `escalation_only_regrades`.
-/

namespace SchemaEvolution

namespace Finding

/-- What a finding says, apart from how grave it is and whom it affects. -/
def remark (f : Finding) : Finding :=
  { f with severity := .advisory, escalated := false, affected := [] }

@[simp] theorem remark_escalate (f : Finding) : f.escalate.remark = f.remark := by
  unfold escalate
  split <;> rfl

@[simp] theorem remark_grade (escalateAll : Bool) (f : Finding) :
    (f.grade escalateAll).remark = f.remark := by
  cases escalateAll with
  | false => rfl
  | true => exact f.remark_escalate

@[simp] theorem remark_annotate (base candidate : Snapshot) (f : Finding) :
    (f.annotate base candidate).remark = f.remark := by
  unfold annotate
  split <;> rfl

@[simp] theorem severity_escalate (f : Finding) : f.escalate.severity = .breaking := by
  unfold escalate
  split
  case h_1 => rfl
  case h_2 grave => exact grave

theorem escalate_of_breaking {f : Finding} (grave : f.severity = .breaking) : f.escalate = f := by
  rw [escalate, grave]

theorem escalated_escalate {f : Finding} (plain : f.escalated = false) :
    f.escalate.escalated = true ↔ f.severity = .advisory := by
  unfold escalate
  cases f.severity <;> simp [plain]

/-- A finding that was breaking before it was graded is still told from one that was raised. -/
theorem isBreaking_and_not_escalated {f : Finding} (plain : f.escalated = false)
    (escalateAll : Bool) (base candidate : Snapshot) :
    (((f.grade escalateAll).annotate base candidate).isBreaking &&
      !((f.grade escalateAll).annotate base candidate).escalated) = f.isBreaking := by
  rw [isBreaking_annotate, escalated_annotate]
  cases escalateAll with
  | false => simp [plain]
  | true =>
      rw [grade, if_pos rfl, isBreaking, isBreaking, severity_escalate, escalate]
      cases grave : f.severity <;> simp [plain]

end Finding

namespace Registry

variable {r : Registry} {base candidate : Snapshot}

/-- No rule makes a finding that was raised already. -/
theorem escalated_of_mem_rawFindings {f : Finding} (found : f ∈ r.rawFindings base candidate) :
    f.escalated = false := by
  obtain ⟨pair, -, found⟩ := List.mem_flatMap.mp found
  obtain ⟨event, -, id, -, found⟩ := mem_evaluate_iff.mp found
  obtain ⟨o, rfl⟩ := exists_finding_of_findingOf found
  rfl

/-- The step that a run requires depends on how the rules grade what they find, and not on whether
    findings are raised. -/
theorem check_requiredBump_eq (distinct : r.rules.Nodup) (validBase : base.Valid)
    (validCandidate : candidate.Valid) (generatedAt : Timestamp) :
    (r.check base candidate generatedAt).requiredBump =
      Bump.required ((r.rawFindings base candidate).any Finding.isBreaking)
        (0 < (r.check base candidate generatedAt).stats.added)
        (r.check base candidate generatedAt).stats.hasChanges := by
  rw [check_requiredBump,
    (check_findings_perm distinct validBase validCandidate generatedAt).any_eq, List.any_map]
  congr 1
  rw [Bool.eq_iff_iff, List.any_eq_true, List.any_eq_true]
  refine exists_congr fun f => and_congr_right fun found => ?_
  rw [Function.comp_apply,
    Finding.isBreaking_and_not_escalated (escalated_of_mem_rawFindings found)]

theorem check_versionCheck (generatedAt : Timestamp) :
    (r.check base candidate generatedAt).versionCheck = do
      return .of (← base.version) (← candidate.version)
        (r.check base candidate generatedAt).requiredBump :=
  rfl

theorem check_verdict_eq_fail_iff {generatedAt : Timestamp} :
    (r.check base candidate generatedAt).verdict = .fail ↔
      ∃ f ∈ (r.check base candidate generatedAt).findings, f.isBreaking = true := by
  rw [check_verdict, ite_eq_left_iff, List.any_eq_true]
  simp

/-- The same registry with findings raised, or left as they are. -/
def raising (r : Registry) (flag : Bool) : Registry :=
  { r with settings := { r.settings with treatAdvisoryAsError := flag } }

/-- No rule sees whether its findings will be raised. -/
theorem rawFindings_raising (flag : Bool) :
    (r.raising flag).rawFindings base candidate = r.rawFindings base candidate := by
  have agrees : AgreesOn (fun _ => true) (r.raising flag) r :=
    ⟨rfl, rfl, fun _ => rfl, fun _ _ _ => rfl⟩
  have same : ((r.raising flag).rawFindings base candidate).filter (fun _ => true) =
      (r.rawFindings base candidate).filter fun _ => true := agrees.filter_rawFindings
  simpa only [List.filter_true] using same

end Registry

/-- How a finding comes out of a run that raises advisory findings. -/
structure Finding.RaisesTo (f g : Finding) : Prop where
  remark : g.remark = f.remark
  severity : g.severity = .breaking
  escalated : g.escalated = true ↔ f.severity = .advisory
  kept : f.severity = .breaking → g = f

/-- How the report of a run that raises advisory findings has to agree with the report of a run that
    leaves them as they are. -/
structure Report.Raises (before after : Report) : Prop where
  complete : before.complete = true ∧ after.complete = true
  plain : ∀ f ∈ before.findings, f.escalated = false
  findings : Finding.PairedOff Finding.RaisesTo before.findings after.findings
  stats : after.stats = before.stats
  requiredBump : after.requiredBump = before.requiredBump
  versionCheck : after.versionCheck = before.versionCheck
  verdict : after.verdict = .fail ↔ after.findings ≠ []
  fails : before.verdict = .fail → after.verdict = .fail

section Raised

variable {r : Registry} {base candidate : Snapshot} (distinct : r.rules.Nodup)
  (validBase : base.Valid) (validCandidate : candidate.Valid) (generatedAt : Timestamp)
include distinct validBase validCandidate

theorem Registry.escalated_of_mem_findings_plain {f : Finding}
    (reported : f ∈ ((r.raising false).check base candidate generatedAt).findings) :
    f.escalated = false := by
  have perm := (r.raising false).check_findings_perm distinct validBase validCandidate generatedAt
  obtain ⟨raw, found, rfl⟩ := List.mem_map.mp (perm.mem_iff.mp reported)
  rw [Finding.escalated_annotate]
  exact escalated_of_mem_rawFindings found

theorem Registry.severity_of_mem_findings_raised {f : Finding}
    (reported : f ∈ ((r.raising true).check base candidate generatedAt).findings) :
    f.severity = .breaking := by
  have perm := (r.raising true).check_findings_perm distinct validBase validCandidate generatedAt
  obtain ⟨raw, -, rfl⟩ := List.mem_map.mp (perm.mem_iff.mp reported)
  rw [Finding.severity_annotate]
  exact Finding.severity_escalate raw

/-- A run that raises findings makes the same remarks, each of them breaking. -/
theorem Registry.pairedOff_raised :
    Finding.PairedOff Finding.RaisesTo
      ((r.raising false).check base candidate generatedAt).findings
      ((r.raising true).check base candidate generatedAt).findings := by
  refine pairedOff_findings (r := r.raising false) (s := r.raising true) distinct validBase
    validCandidate distinct ?_ generatedAt
  rw [rawFindings_raising, rawFindings_raising, List.forall₂_same]
  intro f found
  have plain := escalated_of_mem_rawFindings found
  refine ⟨?_, ?_, ?_, ?_⟩
  · simp only [Finding.remark_annotate, Finding.remark_grade]
  · rw [Finding.severity_annotate]
    exact f.severity_escalate
  · rw [Finding.escalated_annotate, Finding.severity_annotate]
    exact Finding.escalated_escalate plain
  · rw [Finding.severity_annotate]
    intro grave
    exact congrArg (Finding.annotate base candidate) (Finding.escalate_of_breaking grave)

/-- With all findings breaking, a run fails exactly if there is any. -/
theorem Registry.verdict_raised :
    ((r.raising true).check base candidate generatedAt).verdict = .fail ↔
      ((r.raising true).check base candidate generatedAt).findings ≠ [] := by
  rw [check_verdict_eq_fail_iff]
  constructor
  · rintro ⟨f, reported, -⟩
    exact List.ne_nil_of_mem reported
  · intro some
    obtain ⟨f, reported⟩ := List.exists_mem_of_ne_nil _ some
    exact ⟨f, reported, beq_iff_eq.mpr
      (severity_of_mem_findings_raised distinct validBase validCandidate generatedAt reported)⟩

theorem Registry.raises :
    ((r.raising false).check base candidate generatedAt).Raises
      ((r.raising true).check base candidate generatedAt) := by
  have paired := pairedOff_raised distinct validBase validCandidate generatedAt
  have stats : ((r.raising true).check base candidate generatedAt).stats =
      ((r.raising false).check base candidate generatedAt).stats := check_stats_eq _ _ _
  have bump : ((r.raising true).check base candidate generatedAt).requiredBump =
      ((r.raising false).check base candidate generatedAt).requiredBump := by
    rw [check_requiredBump_eq (r := r.raising true) distinct validBase validCandidate,
      check_requiredBump_eq (r := r.raising false) distinct validBase validCandidate,
      rawFindings_raising, rawFindings_raising, stats]
  refine
    { complete := ⟨check_complete generatedAt, check_complete generatedAt⟩
      plain := fun f reported =>
        escalated_of_mem_findings_plain distinct validBase validCandidate generatedAt reported
      findings := paired
      stats
      requiredBump := bump
      versionCheck := ?_
      verdict := verdict_raised distinct validBase validCandidate generatedAt
      fails := ?_ }
  · rw [check_versionCheck, check_versionCheck, bump]
  · intro fails
    obtain ⟨f, reported, -⟩ := check_verdict_eq_fail_iff.mp fails
    obtain ⟨order, perm, related⟩ := paired
    obtain ⟨g, member, -⟩ := exists_of_mem_left related reported
    rw [verdict_raised distinct validBase validCandidate generatedAt]
    exact List.ne_nil_of_mem (perm.mem_iff.mpr member)

end Raised

/-- To raise findings is to grade them anew: two runs that differ in nothing else make the same
    remarks, count the same and require the same step; with all findings breaking, the one that
    raises them fails exactly if there is any. -/
theorem escalation_only_regrades {base candidate : Snapshot} (builtBase : base.IsBuilt)
    (builtCandidate : candidate.IsBuilt) {settings : Settings}
    (valid : settings.validate = .ok ()) :
    ∃ plain raising,
      Registry.ofSettings { settings with treatAdvisoryAsError := false } = .ok plain ∧
      Registry.ofSettings { settings with treatAdvisoryAsError := true } = .ok raising ∧
      ∀ generatedAt, (plain.check base candidate generatedAt).Raises
        (raising.check base candidate generatedAt) := by
  obtain ⟨r, ok⟩ := Registry.exists_ofSettings valid
  obtain ⟨-, selected, graded, rfl⟩ := Registry.ofSettings_eq_ok_iff.mp ok
  have reads (flag : Bool) :
      Registry.ofSettings { r.settings with treatAdvisoryAsError := flag } =
        .ok (r.raising flag) :=
    Registry.ofSettings_eq_ok_iff.mpr ⟨valid, selected, graded, rfl⟩
  refine ⟨_, _, reads false, reads true, fun generatedAt => ?_⟩
  exact Registry.raises (Registry.nodup_rules ok) builtBase.valid builtCandidate.valid generatedAt

/-- What is gone from the profile is advisory, so only the run that raises findings fails. -/
theorem raised_removals_fail :
    ∃ plain raising, Registry.ofSettings { treatAdvisoryAsError := false } = .ok plain ∧
      Registry.ofSettings { treatAdvisoryAsError := true } = .ok raising ∧
      (plain.check profileTwice profileGone .epoch).verdict = .pass ∧
      (raising.check profileTwice profileGone .epoch).verdict = .fail ∧
      (plain.check profileTwice profileGone .epoch).Raises
        (raising.check profileTwice profileGone .epoch) := by
  have builtBase : profileTwice.IsBuilt := ⟨⟨"before", none, profileTwice.types⟩, by decide +kernel⟩
  have builtCandidate : profileGone.IsBuilt :=
    ⟨⟨"after", none, profileGone.types⟩, by decide +kernel⟩
  have valid : ({} : Settings).validate = .ok () := by rfl
  obtain ⟨plain, raising, okPlain, okRaising, reports⟩ :=
    escalation_only_regrades builtBase builtCandidate valid
  obtain rfl := Except.ok.inj (Registry.ofSettings_default.symm.trans okPlain)
  have read : Registry.ofSettings { treatAdvisoryAsError := true } =
      .ok ⟨RuleId.all, .standard, { treatAdvisoryAsError := true }⟩ := rfl
  obtain rfl := Except.ok.inj (read.symm.trans okRaising)
  exact ⟨_, _, okPlain, okRaising, by decide +kernel, by decide +kernel, reports .epoch⟩

end SchemaEvolution
