import SchemaEvolution.Proofs.Check.Escalation
import SchemaEvolution.Proofs.Config.Grading
import SchemaEvolution.Proofs.Rule.Wording

/-! # Independence of rules

What a report says about one rule depends neither on which other rules run nor on how they are
graded.  To select rules is to drop the findings of the others (`Registry.check_selects`), and to
grade a rule anew changes how grave its own findings are, those aside that tell of an event that the
rule could not judge (`Registry.check_regrades`).
-/

namespace SchemaEvolution

/-- How a finding comes out of a run in which one rule is graded anew. -/
structure Finding.RegradesTo (id : RuleId) (f g : Finding) : Prop where
  remark : g.remark = f.remark
  other : f.rule ≠ id → g = f
  fault : ReportsFault f.message → g = f

/-- How the report of a run of some rules has to agree with that of a run of all rules. -/
structure Report.Selects (keep : RuleId → Bool) (some all : Report) : Prop where
  findings : some.findings = all.findings.filter fun f => keep f.rule
  stats : some.stats = all.stats

/-- Whether two reports differ at most in their findings and in what is read off them. -/
def Report.SameFrame (before after : Report) : Prop :=
  after = { before with
    findings := after.findings
    verdict := after.verdict
    requiredBump := after.requiredBump
    versionCheck := after.versionCheck }

/-- How the report of a run has to agree with that of a run in which one rule is graded anew. -/
structure Report.Regrades (id : RuleId) (before after : Report) : Prop where
  findings : Finding.PairedOff (Finding.RegradesTo id) before.findings after.findings
  others : after.findings.filter (fun f => f.rule != id) =
    before.findings.filter fun f => f.rule != id
  frame : before.SameFrame after
  rest : after.findings = before.findings → after = before

namespace Finding

variable {id : RuleId} {f g : Finding}

theorem message_eq_of_remark (same : g.remark = f.remark) : g.message = f.message := by
  have messages := congrArg message same
  exact messages

theorem RegradesTo.grade_annotate (regrades : RegradesTo id f g) (escalateAll : Bool)
    (base candidate : Snapshot) :
    RegradesTo id ((f.grade escalateAll).annotate base candidate)
      ((g.grade escalateAll).annotate base candidate) where
  remark := by
    simp only [remark_annotate, remark_grade]
    exact regrades.remark
  other := by
    rw [rule_annotate, rule_grade]
    intro other
    rw [regrades.other other]
  fault := by
    have message : ((f.grade escalateAll).annotate base candidate).message = f.message :=
      message_eq_of_remark ((remark_annotate base candidate _).trans (remark_grade escalateAll f))
    rw [message]
    intro fault
    rw [regrades.fault fault]

end Finding

namespace Registry

variable {r s : Registry} {base candidate : Snapshot}

theorem check_sameFrame (generatedAt : Timestamp) :
    (r.check base candidate generatedAt).SameFrame (s.check base candidate generatedAt) := by
  rw [Report.SameFrame, check_stats_eq r s]
  rfl

/-- A report is decided by its findings and what was compared. -/
theorem check_eq_of_findings {generatedAt : Timestamp}
    (findings : (s.check base candidate generatedAt).findings =
      (r.check base candidate generatedAt).findings) :
    s.check base candidate generatedAt = r.check base candidate generatedAt := by
  have bump : (s.check base candidate generatedAt).requiredBump =
      (r.check base candidate generatedAt).requiredBump := by
    rw [check_requiredBump, check_requiredBump, findings, check_stats_eq s r]
  have frame : (r.check base candidate generatedAt).SameFrame _ := check_sameFrame (s := s) _
  rw [frame, check_verdict, findings, ← check_verdict, bump, check_versionCheck, bump,
    ← check_versionCheck]

/-- A rule that is graded anew makes the same remark of an event, and the same finding if it could
    not judge the event. -/
theorem rel_findingOf {id : RuleId} {ctx other : RuleContext} (agrees : ctx.Agrees other)
    (tolerance : ctx.settings.allowNarrowing = other.settings.allowNarrowing)
    (severities : ∀ j, j ≠ id → ∀ o, r.severities.get j o = s.severities.get j o)
    {name : String} {event : ChangeEvent}
    (qualified : ∀ m, event.entity = .message m → Identifier.isQualified m.name.toList = true)
    (j : RuleId) :
    Option.Rel (Finding.RegradesTo id) (r.findingOf ctx name event j)
      (s.findingOf other name event j) := by
  have checked : j.check ctx event = j.check other event :=
    RuleId.check_eq_of_agrees agrees (fun _ => tolerance) event
  unfold findingOf
  rw [← checked]
  cases answered : j.check ctx event with
  | error fault => exact .some ⟨rfl, fun _ => rfl, fun _ => rfl⟩
  | ok answer =>
      cases answer with
      | none => exact .none
      | some o =>
          refine .some ⟨rfl, ?_, ?_⟩
          · intro differ
            rw [finding, finding, severities j differ]
          · intro fault
            exact absurd fault (RuleId.not_reportsFault_of_check qualified answered)

section Reports

variable (distinct : r.rules.Nodup) (validBase : base.Valid) (validCandidate : candidate.Valid)
include distinct validBase validCandidate

/-- To select rules is to drop the findings of the others. -/
theorem check_selects {keep : RuleId → Bool} (selected : s.rules = r.rules.filter keep)
    (graded : s.severities = r.severities)
    (threshold : s.settings.fieldCountThreshold = r.settings.fieldCountThreshold)
    (tolerance : s.settings.allowNarrowing = r.settings.allowNarrowing)
    (raised : s.settings.treatAdvisoryAsError = r.settings.treatAdvisoryAsError)
    (generatedAt : Timestamp) :
    (s.check base candidate generatedAt).Selects keep (r.check base candidate generatedAt) where
  findings := by
    have distinctToo : s.rules.Nodup := selected ▸ distinct.filter keep
    have agrees : AgreesOn keep s r := by
      refine ⟨?_, threshold, fun _ => tolerance, fun id _ o => by rw [graded]⟩
      rw [selected, List.filter_filter]
      simp
    rw [← agrees.filter_findings distinctToo validBase validCandidate distinct raised, eq_comm,
      List.filter_eq_self]
    intro f reported
    obtain ⟨enabled, -⟩ := (exists_mem_findings_iff distinctToo validBase validCandidate
      generatedAt).mp ⟨f, reported, rfl⟩
    rw [selected] at enabled
    exact (List.mem_filter.mp enabled).2
  stats := check_stats_eq s r generatedAt

/-- To grade a rule anew changes how grave its own findings are. -/
theorem check_regrades {id : RuleId} (rules : s.rules = r.rules)
    (severities : ∀ j, j ≠ id → ∀ o, s.severities.get j o = r.severities.get j o)
    (threshold : s.settings.fieldCountThreshold = r.settings.fieldCountThreshold)
    (tolerance : s.settings.allowNarrowing = r.settings.allowNarrowing)
    (raised : s.settings.treatAdvisoryAsError = r.settings.treatAdvisoryAsError)
    (generatedAt : Timestamp) :
    (r.check base candidate generatedAt).Regrades id (s.check base candidate generatedAt) where
  findings := by
    refine pairedOff_findings distinct validBase validCandidate (rules ▸ distinct) ?_ generatedAt
    rw [raised]
    refine List.Forall₂.imp (R := Finding.RegradesTo id)
      (fun f g regrades => regrades.grade_annotate _ base candidate)
      (forall₂_rawFindings rules.symm validBase validCandidate ?_)
    intro name event happens j _
    have contexts : (r.context base candidate).Agrees (s.context base candidate) :=
      ⟨rfl, rfl, threshold.symm⟩
    exact rel_findingOf contexts tolerance.symm (fun j differ o => (severities j differ o).symm)
      (happens.isQualified validBase validCandidate) j
  others := by
    have agrees : AgreesOn (· != id) s r :=
      ⟨by rw [rules], threshold, fun _ => tolerance,
        fun j kept o => severities j (bne_iff_ne.mp kept) o⟩
    exact agrees.filter_findings (rules ▸ distinct) validBase validCandidate distinct raised
      generatedAt
  frame := check_sameFrame generatedAt
  rest findings := check_eq_of_findings findings

end Reports

end Registry

/-- A report shows of each rule what it shows if every rule runs, and of every other rule what it
    shows if one rule is graded anew. -/
theorem rules_are_independent {base candidate : Snapshot} (builtBase : base.IsBuilt)
    (builtCandidate : candidate.IsBuilt) {settings : Settings}
    (valid : settings.validate = .ok ()) :
    ∃ r all, Registry.ofSettings settings = .ok r ∧
      Registry.ofSettings { settings with ruleAllowlist := [], ruleDenylist := [] } = .ok all ∧
      (∀ generatedAt, (r.check base candidate generatedAt).Selects settings.selects
        (all.check base candidate generatedAt)) ∧
      ∀ id overrides, { settings with severityOverrides := overrides }.validate = .ok () →
        settings.severityOverrides.filter (SeverityTable.isAboutOther id) =
          overrides.filter (SeverityTable.isAboutOther id) →
        ∃ s, Registry.ofSettings { settings with severityOverrides := overrides } = .ok s ∧
          ∀ generatedAt, (r.check base candidate generatedAt).Regrades id
            (s.check base candidate generatedAt) := by
  obtain ⟨r, ok⟩ := Registry.exists_ofSettings valid
  obtain ⟨all, okAll⟩ := Registry.exists_ofSettings (Settings.validate_selectingAll valid)
  refine ⟨r, all, ok, okAll, ?_, ?_⟩
  · intro generatedAt
    have distinct := Registry.nodup_rules okAll
    obtain ⟨-, selected, graded, rfl⟩ := Registry.ofSettings_eq_ok_iff.mp ok
    obtain ⟨-, selectedAll, gradedAll, settingsAll⟩ := Registry.ofSettings_eq_ok_iff.mp okAll
    have everyRule : all.rules = RuleId.all := by
      rw [Settings.rules_eq_filter selectedAll]
      rfl
    have threshold := congrArg Settings.fieldCountThreshold settingsAll
    have tolerance := congrArg Settings.allowNarrowing settingsAll
    have raised := congrArg Settings.treatAdvisoryAsError settingsAll
    exact Registry.check_selects distinct builtBase.valid builtCandidate.valid
      (by rw [everyRule, Settings.rules_eq_filter selected])
      (Except.ok.inj (graded.symm.trans gradedAll)) threshold tolerance raised generatedAt
  · intro id overrides validAnew others
    obtain ⟨s, okAnew⟩ := Registry.exists_ofSettings validAnew
    refine ⟨s, okAnew, fun generatedAt => ?_⟩
    have distinct := Registry.nodup_rules ok
    obtain ⟨-, selected, graded, rfl⟩ := Registry.ofSettings_eq_ok_iff.mp ok
    obtain ⟨-, selectedAnew, gradedAnew, settingsAnew⟩ := Registry.ofSettings_eq_ok_iff.mp okAnew
    have threshold := congrArg Settings.fieldCountThreshold settingsAnew
    have tolerance := congrArg Settings.allowNarrowing settingsAnew
    have raised := congrArg Settings.treatAdvisoryAsError settingsAnew
    exact Registry.check_regrades distinct builtBase.valid builtCandidate.valid
      (Except.ok.inj (selectedAnew.symm.trans selected))
      (fun j differ => SeverityTable.get_eq_of_others gradedAnew graded others.symm differ)
      threshold.symm tolerance.symm raised.symm generatedAt

/-- Settings that allow two rules and deny one of them, spelled in their own way. -/
def pickyRemovals : Settings where
  ruleAllowlist := [" r-type-removed", "R-UNRESERVED-REMOVAL"]
  ruleDenylist := ["R-Type-Removed "]

/-- One removal is dropped with its rule; the other one turns breaking with its rule, and the run
    fails. -/
theorem picked_removal_is_regraded :
    ∃ r all s, Registry.ofSettings pickyRemovals = .ok r ∧
      Registry.ofSettings { pickyRemovals with ruleAllowlist := [], ruleDenylist := [] } =
        .ok all ∧
      Registry.ofSettings { pickyRemovals with
        severityOverrides := [("r-unreserved-removal", .breaking)] } = .ok s ∧
      (r.check profileTwice profileGone .epoch).Selects pickyRemovals.selects
        (all.check profileTwice profileGone .epoch) ∧
      (r.check profileTwice profileGone .epoch).Regrades .unreservedRemoval
        (s.check profileTwice profileGone .epoch) ∧
      (all.check profileTwice profileGone .epoch).findings.length = 2 ∧
      (r.check profileTwice profileGone .epoch).verdict = .pass ∧
      (s.check profileTwice profileGone .epoch).verdict = .fail := by
  have builtBase : profileTwice.IsBuilt := ⟨⟨"before", none, profileTwice.types⟩, by decide +kernel⟩
  have builtCandidate : profileGone.IsBuilt :=
    ⟨⟨"after", none, profileGone.types⟩, by decide +kernel⟩
  have valid : pickyRemovals.validate = .ok () := by decide +kernel
  obtain ⟨r, all, ok, okAll, selects, regrades⟩ :=
    rules_are_independent builtBase builtCandidate valid
  obtain ⟨s, okAnew, regrades⟩ := regrades .unreservedRemoval
    [("r-unreserved-removal", .breaking)] (by decide +kernel) (by decide +kernel)
  have picked : Registry.ofSettings pickyRemovals =
      .ok ⟨[.unreservedRemoval], .standard, pickyRemovals⟩ := by decide +kernel
  have every : Registry.ofSettings { pickyRemovals with ruleAllowlist := [], ruleDenylist := [] } =
      .ok .default := by decide +kernel
  have graded : Registry.ofSettings { pickyRemovals with
      severityOverrides := [("r-unreserved-removal", .breaking)] } =
        .ok ⟨[.unreservedRemoval], ⟨[(.unreservedRemoval, .breaking)]⟩, { pickyRemovals with
          severityOverrides := [("r-unreserved-removal", .breaking)] }⟩ := by decide +kernel
  obtain rfl := Except.ok.inj (picked.symm.trans ok)
  obtain rfl := Except.ok.inj (every.symm.trans okAll)
  obtain rfl := Except.ok.inj (graded.symm.trans okAnew)
  exact ⟨_, _, _, ok, okAll, okAnew, selects .epoch, regrades .epoch, by decide +kernel,
    by decide +kernel, by decide +kernel⟩

end SchemaEvolution
