import SchemaEvolution.Proofs.Check.Escalation
import SchemaEvolution.Proofs.Wire.Tolerance

/-! # Reports that tolerate narrowing

To tolerate narrowing silences the comparison of types in some places and makes it milder in others;
it never makes a report graver.  Where the tolerant comparison fires at all, the strict one fires as
well, in the same way or as a violation (`Field.exists_strict_outcome`), and a violation is as grave
as a rule can be (`SeverityTable.place_violation_le`).
-/

namespace SchemaEvolution

/-- The context with narrowing tolerated, or not. -/
def RuleContext.tolerating (ctx : RuleContext) (narrowing : Narrowing) : RuleContext :=
  { ctx with settings := { ctx.settings with integerNarrowing := narrowing } }

theorem RuleContext.superset_strict (ctx : RuleContext) :
    (ctx.tolerating .breaking).superset = ctx.superset.tolerating false := rfl

theorem RuleContext.superset_tolerant (ctx : RuleContext) :
    (ctx.tolerating .advisory).superset = ctx.superset.tolerating true := rfl

/-- What the tolerant comparison of two fields says, the strict one says as well, or it calls it a
    violation. -/
theorem Field.exists_strict_outcome {ctx : RuleContext} {f g : Field} {o : Outcome}
    (fires : f.typeOutcome? (ctx.tolerating .advisory) g = some o) :
    ∃ strict, f.typeOutcome? (ctx.tolerating .breaking) g = some strict ∧
      (strict = o ∨ strict = .violation) := by
  unfold typeOutcome? at fires ⊢
  by_cases same : (decide (f.type = g.type) || f.rebinds g) = true
  · simp [same] at fires
  rw [if_neg same] at fires ⊢
  cases compares : f.type.compare g.type with
  | error fault =>
      rw [compares] at fires
      exact ⟨o, fires, .inl rfl⟩
  | ok comparison =>
      rw [compares] at fires
      cases comparison with
      | same => cases fires
      | incompatible => exact ⟨o, fires, .inl rfl⟩
      | convertible conversion =>
          by_cases cardinality : f.cardinality = g.cardinality
          · by_cases narrows : conversion = .narrowing
            · refine ⟨.violation, ?_, .inr rfl⟩
              simp [cardinality, narrows, RuleContext.tolerating, Settings.allowNarrowing]
            · simp [cardinality, narrows] at fires
          · exact ⟨o, by simpa [cardinality] using fires, .inl rfl⟩
      | structural =>
          rw [RuleContext.superset_tolerant] at fires
          rw [RuleContext.superset_strict]
          rcases ctx.superset.references_strict [] f.type g.type with refused | agreed
          · exact ⟨.violation, by rw [refused], .inr rfl⟩
          · exact ⟨o, by rwa [agreed], .inl rfl⟩

/-- Whatever a rule says about an event while narrowing is tolerated, it says otherwise as well, or
    it calls it a violation. -/
theorem RuleId.exists_strict_outcome {ctx : RuleContext} {event : ChangeEvent} {id : RuleId}
    {o : Outcome} (fires : id.outcome? (ctx.tolerating .advisory) event = some o) :
    ∃ strict, id.outcome? (ctx.tolerating .breaking) event = some strict ∧
      (strict = o ∨ strict = .violation) := by
  by_cases types : id = .typeChange
  · subst types
    rw [outcome?_typeChange] at fires ⊢
    split at fires
    · exact Field.exists_strict_outcome fires
    · cases fires
  · have agrees : (ctx.tolerating .breaking).Agrees (ctx.tolerating .advisory) := ⟨rfl, rfl, rfl⟩
    have checked := check_eq_of_agrees agrees (fun isTypes => absurd isTypes types) event
    refine ⟨o, ?_, .inl rfl⟩
    rwa [outcome?, checked]

/-- No outcome of a rule is graver than a violation. -/
theorem SeverityTable.place_violation_le (t : SeverityTable) (id : RuleId) (o : Outcome) :
    (t.get id .violation).place ≤ (t.get id o).place := by
  cases o with
  | violation => exact Nat.le_refl _
  | unevaluated =>
      rw [get_unevaluated]
      cases t.get id .violation <;> simp [Severity.place]
  | relaxed =>
      unfold get
      cases t.decisions.lookup id with
      | some severity => exact Nat.le_refl _
      | none => cases id <;> decide

theorem Bump.atLeast_required {strict tolerant : Bool} (graver : tolerant = true → strict = true)
    (additions changes : Bool) :
    (required strict additions changes).atLeast (required tolerant additions changes) = true := by
  cases tolerant with
  | true => rw [graver rfl, atLeast, decide_eq_true_iff]
  | false => cases strict <;> cases additions <;> cases changes <;> decide

namespace Finding

theorem place_grade_le {f g : Finding} (graver : g.severity.place ≤ f.severity.place)
    (escalateAll : Bool) :
    (g.grade escalateAll).severity.place ≤ (f.grade escalateAll).severity.place := by
  cases escalateAll with
  | false => exact graver
  | true =>
      rw [grade, grade, if_pos rfl, if_pos rfl, severity_escalate, severity_escalate]

end Finding

namespace Registry

variable {r : Registry} {base candidate : Snapshot}

/-- The same registry with narrowing tolerated, or not. -/
def tolerating (r : Registry) (narrowing : Narrowing) : Registry :=
  { r with settings := { r.settings with integerNarrowing := narrowing } }

theorem context_tolerating (narrowing : Narrowing) :
    (r.tolerating narrowing).context base candidate =
      (r.context base candidate).tolerating narrowing := rfl

theorem exists_strict_rawFinding (validBase : base.Valid) (validCandidate : candidate.Valid)
    {f : Finding} (found : f ∈ (r.tolerating .advisory).rawFindings base candidate) :
    ∃ g ∈ (r.tolerating .breaking).rawFindings base candidate, g.key = f.key ∧
      g.severity.place ≤ f.severity.place := by
  obtain ⟨name, event, id, happens, enabled, found⟩ :=
    (mem_rawFindings_iff validBase validCandidate).mp found
  rw [context_tolerating] at found
  obtain ⟨o, fires, graded⟩ := exists_outcome_of_findingOf found
  obtain ⟨strict, firesStrict, graver⟩ := RuleId.exists_strict_outcome fires
  obtain ⟨g, foundStrict, gradedStrict⟩ :=
    exists_findingOf_of_outcome (r := r.tolerating .breaking) firesStrict name
  refine ⟨g, (mem_rawFindings_iff validBase validCandidate).mpr
    ⟨name, event, id, happens, enabled, foundStrict⟩, ?_, ?_⟩
  · rw [key_of_findingOf found, key_of_findingOf foundStrict]
  · rw [← graded, gradedStrict]
    rcases graver with rfl | rfl
    · exact Nat.le_refl _
    · exact r.severities.place_violation_le id o

end Registry

/-- How the report of a run that tolerates narrowing has to agree with that of a run that does
    not. -/
structure Report.Relaxes (strict tolerant : Report) : Prop where
  complete : strict.complete = true ∧ tolerant.complete = true
  counterpart : ∀ f ∈ tolerant.findings, ∃ g ∈ strict.findings,
    g.rule = f.rule ∧ g.path = f.path ∧ g.severity.place ≤ f.severity.place
  others : tolerant.findings.filter (fun f => f.rule != .typeChange) =
    strict.findings.filter fun f => f.rule != .typeChange
  verdict : strict.verdict = .pass → tolerant.verdict = .pass
  requiredBump : strict.requiredBump.atLeast tolerant.requiredBump = true

section Reports

variable {r : Registry} {base candidate : Snapshot} (distinct : r.rules.Nodup)
  (validBase : base.Valid) (validCandidate : candidate.Valid) (generatedAt : Timestamp)
include distinct validBase validCandidate

theorem Registry.exists_strict_finding {f : Finding}
    (reported : f ∈ ((r.tolerating .advisory).check base candidate generatedAt).findings) :
    ∃ g ∈ ((r.tolerating .breaking).check base candidate generatedAt).findings,
      g.key = f.key ∧ g.severity.place ≤ f.severity.place := by
  have perm := (r.tolerating .advisory).check_findings_perm distinct validBase validCandidate
    generatedAt
  have permStrict := (r.tolerating .breaking).check_findings_perm distinct validBase validCandidate
    generatedAt
  obtain ⟨raw, found, rfl⟩ := List.mem_map.mp (perm.mem_iff.mp reported)
  obtain ⟨strict, foundStrict, key, graver⟩ :=
    exists_strict_rawFinding validBase validCandidate found
  refine ⟨_, permStrict.mem_iff.mpr (List.mem_map_of_mem foundStrict), ?_, ?_⟩
  · simpa only [Finding.key_annotate, Finding.key_grade] using key
  · rw [Finding.severity_annotate, Finding.severity_annotate]
    exact Finding.place_grade_le graver r.settings.treatAdvisoryAsError

/-- The rules other than the comparison of types do not see whether narrowing is tolerated. -/
theorem Registry.filter_findings_tolerating :
    ((r.tolerating .advisory).check base candidate generatedAt).findings.filter
        (fun f => f.rule != .typeChange) =
      ((r.tolerating .breaking).check base candidate generatedAt).findings.filter
        fun f => f.rule != .typeChange := by
  have agrees : AgreesOn (· != .typeChange) (r.tolerating .advisory) (r.tolerating .breaking) :=
    ⟨rfl, rfl, fun kept => by simp at kept, fun _ _ _ => rfl⟩
  exact agrees.filter_findings (r := r.tolerating .advisory) distinct validBase validCandidate
    distinct rfl generatedAt

theorem Registry.requiredBump_tolerating :
    ((r.tolerating .breaking).check base candidate generatedAt).requiredBump.atLeast
      ((r.tolerating .advisory).check base candidate generatedAt).requiredBump = true := by
  have stats : ((r.tolerating .breaking).check base candidate generatedAt).stats =
      ((r.tolerating .advisory).check base candidate generatedAt).stats := check_stats_eq _ _ _
  rw [check_requiredBump_eq (r := r.tolerating .breaking) distinct validBase validCandidate,
    check_requiredBump_eq (r := r.tolerating .advisory) distinct validBase validCandidate, stats]
  refine Bump.atLeast_required ?_ _ _
  simp only [List.any_eq_true]
  rintro ⟨f, found, grave⟩
  obtain ⟨g, foundStrict, -, graver⟩ := exists_strict_rawFinding validBase validCandidate found
  exact ⟨g, foundStrict, beq_iff_eq.mpr
    (Severity.eq_breaking_of_place_le graver (beq_iff_eq.mp grave))⟩

theorem Registry.relaxes :
    ((r.tolerating .breaking).check base candidate generatedAt).Relaxes
      ((r.tolerating .advisory).check base candidate generatedAt) where
  complete := ⟨check_complete generatedAt, check_complete generatedAt⟩
  counterpart := by
    intro f reported
    obtain ⟨g, reportedStrict, key, graver⟩ :=
      exists_strict_finding distinct validBase validCandidate generatedAt reported
    obtain ⟨rule, path⟩ := Prod.mk.inj key
    exact ⟨g, reportedStrict, rule, path, graver⟩
  others := filter_findings_tolerating distinct validBase validCandidate generatedAt
  verdict := by
    rw [check_verdict, check_verdict, ite_eq_right_iff, ite_eq_right_iff, List.any_eq_true,
      List.any_eq_true]
    rintro passes ⟨f, reported, grave⟩
    obtain ⟨g, reportedStrict, -, graver⟩ :=
      exists_strict_finding distinct validBase validCandidate generatedAt reported
    exact passes ⟨g, reportedStrict, beq_iff_eq.mpr
      (Severity.eq_breaking_of_place_le graver (beq_iff_eq.mp grave))⟩
  requiredBump := requiredBump_tolerating distinct validBase validCandidate generatedAt

end Reports

/-- To tolerate narrowing makes no report graver: what it reports was reported before, by the same
    rule at the same path and at least as gravely, and what the other rules report stays as it
    is. -/
theorem tolerance_is_monotone {base candidate : Snapshot} (builtBase : base.IsBuilt)
    (builtCandidate : candidate.IsBuilt) {settings : Settings}
    (valid : settings.validate = .ok ()) :
    ∃ strict tolerant,
      Registry.ofSettings { settings with integerNarrowing := .breaking } = .ok strict ∧
      Registry.ofSettings { settings with integerNarrowing := .advisory } = .ok tolerant ∧
      ∀ generatedAt, (strict.check base candidate generatedAt).Relaxes
        (tolerant.check base candidate generatedAt) := by
  obtain ⟨r, ok⟩ := Registry.exists_ofSettings valid
  obtain ⟨-, selected, graded, rfl⟩ := Registry.ofSettings_eq_ok_iff.mp ok
  have reads (narrowing : Narrowing) :
      Registry.ofSettings { r.settings with integerNarrowing := narrowing } =
        .ok (r.tolerating narrowing) :=
    Registry.ofSettings_eq_ok_iff.mpr ⟨valid, selected, graded, rfl⟩
  refine ⟨_, _, reads .breaking, reads .advisory, fun generatedAt => ?_⟩
  exact Registry.relaxes (Registry.nodup_rules ok) builtBase.valid builtCandidate.valid generatedAt

/-- Two kinds of entries; the amounts of the new one are smaller, and its note is another group. -/
def ledgerTypes (entry : String) : List TypeDef := [
  .message ⟨"acme.Ledger", .proto2, [{ number := 1, name := "entry", type := .message entry }],
    .none⟩,
  .message ⟨"acme.New", .proto2, [{ number := 1, name := "amount", type := .scalar .int32 },
    { number := 2, name := "note", type := .group "acme.Text" }], .none⟩,
  .message ⟨"acme.Note", .proto2, [], .none⟩,
  .message ⟨"acme.Old", .proto2, [{ number := 1, name := "amount", type := .scalar .int64 },
    { number := 2, name := "note", type := .group "acme.Note" }], .none⟩,
  .message ⟨"acme.Text", .proto2, [], .none⟩]

def ledgerBefore : Snapshot := ⟨"before", none, ledgerTypes "acme.Old"⟩

def ledgerAfter : Snapshot := ⟨"after", none, ledgerTypes "acme.New"⟩

/-- The strict walk stops at the amounts; the tolerant one goes on to the notes and meets groups
    that it cannot compare. -/
theorem tolerant_walk_meets_groups :
    ∃ strict tolerant, Registry.ofSettings { integerNarrowing := .breaking } = .ok strict ∧
      Registry.ofSettings { integerNarrowing := .advisory } = .ok tolerant ∧
      (strict.check ledgerBefore ledgerAfter .epoch).Relaxes
        (tolerant.check ledgerBefore ledgerAfter .epoch) ∧
      ((strict.context ledgerBefore ledgerAfter).superset.messages [] "acme.Old" "acme.New").1 =
        .ok false ∧
      ((tolerant.context ledgerBefore ledgerAfter).superset.messages [] "acme.Old" "acme.New").1 =
        .error (.unclassifiable (.group "acme.Note") (.group "acme.Text")) := by
  have builtBase : ledgerBefore.IsBuilt := ⟨⟨"before", none, ledgerBefore.types⟩, by decide +kernel⟩
  have builtCandidate : ledgerAfter.IsBuilt :=
    ⟨⟨"after", none, ledgerAfter.types⟩, by decide +kernel⟩
  have valid : ({} : Settings).validate = .ok () := by rfl
  obtain ⟨strict, tolerant, okStrict, okTolerant, relaxes⟩ :=
    tolerance_is_monotone builtBase builtCandidate valid
  have readStrict : Registry.ofSettings { integerNarrowing := .breaking } = .ok .default := rfl
  have readTolerant : Registry.ofSettings { integerNarrowing := .advisory } =
      .ok ⟨RuleId.all, .standard, { integerNarrowing := .advisory }⟩ := rfl
  obtain rfl := Except.ok.inj (readStrict.symm.trans okStrict)
  obtain rfl := Except.ok.inj (readTolerant.symm.trans okTolerant)
  exact ⟨_, _, okStrict, okTolerant, relaxes .epoch, by cbv, by cbv⟩

end SchemaEvolution
