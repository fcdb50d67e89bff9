import SchemaEvolution.Proofs.Check.Escalation

/-! # How often a rule reports

A report holds at most one finding of a rule at a path.  What happens where a rule looks is
therefore reported by it once or not at all, and whether it is depends on the event alone
(`Registry.occurrences_of_happens`).  Conversely every finding of a report is what its rule made of
something that happened (`Registry.exists_findingOf_of_mem_findings`).
-/

namespace SchemaEvolution

/-- What a finding says, part by part. -/
theorem Finding.remark_eq_iff {f g : Finding} :
    f.remark = g.remark ↔ f.rule = g.rule ∧ f.path = g.path ∧ f.typeName = g.typeName ∧
      f.message = g.message ∧ f.oldValue = g.oldValue ∧ f.newValue = g.newValue := by
  cases f
  cases g
  simp [remark]

/-- How many findings of a rule a report has at a path. -/
def Report.occurrences (report : Report) (id : RuleId) (path : String) : Nat :=
  (report.findings.map Finding.key).count (id, path)

namespace Registry

variable {r : Registry} {base candidate : Snapshot} (distinct : r.rules.Nodup)
  (validBase : base.Valid) (validCandidate : candidate.Valid)

include distinct validBase validCandidate

/-- A rule reports at a path once or not at all. -/
theorem occurrences_eq (id : RuleId) (path : String) (generatedAt : Timestamp) :
    (r.check base candidate generatedAt).occurrences id path =
      if (id, path) ∈ (r.check base candidate generatedAt).findings.map Finding.key then 1 else 0 :=
  (nodup_key_findings distinct validBase validCandidate generatedAt).count

/-- What happens where a rule looks is reported by it exactly if the rule fires on it. -/
theorem occurrences_of_happens {name : String} {event : ChangeEvent} {id : RuleId}
    (happens : Happens base candidate name event) (site : id.site = event.site)
    (enabled : id ∈ r.rules) (generatedAt : Timestamp) :
    (r.check base candidate generatedAt).occurrences id event.path =
      if (id.outcome? (r.context base candidate) event).isSome then 1 else 0 := by
  rw [occurrences_eq distinct validBase validCandidate]
  refine if_congr ?_ rfl rfl
  rw [mem_keys_findings_iff distinct validBase validCandidate happens site]
  exact and_iff_right enabled

/-- A rule that fires on nothing that happens at a path reports nothing there. -/
theorem occurrences_eq_zero {id : RuleId} {path : String}
    (silent : ∀ name event, Happens base candidate name event → event.path = path →
      id.outcome? (r.context base candidate) event = none) (generatedAt : Timestamp) :
    (r.check base candidate generatedAt).occurrences id path = 0 := by
  rw [occurrences_eq distinct validBase validCandidate]
  refine if_neg fun reported => ?_
  obtain ⟨-, name, event, happens, here, fires⟩ :=
    (mem_keys_iff distinct validBase validCandidate).mp reported
  rw [silent name event happens here] at fires
  cases fires

/-- A finding of a report is what its rule made of something that happened to its type, where the
    finding stands. -/
theorem exists_findingOf_of_mem_findings {generatedAt : Timestamp} {f : Finding}
    (reported : f ∈ (r.check base candidate generatedAt).findings) :
    ∃ event raw, Happens base candidate f.typeName event ∧ event.path = f.path ∧
      r.findingOf (r.context base candidate) f.typeName event f.rule = some raw ∧
      f.remark = raw.remark := by
  obtain ⟨raw, found, rfl⟩ := List.mem_map.mp
    ((check_findings_perm distinct validBase validCandidate generatedAt).mem_iff.mp reported)
  obtain ⟨name, event, id, happens, -, found⟩ :=
    (mem_rawFindings_iff validBase validCandidate).mp found
  have remark : ((raw.grade r.settings.treatAdvisoryAsError).annotate base candidate).remark =
      raw.remark := by
    rw [Finding.remark_annotate, Finding.remark_grade]
  obtain ⟨rule, path, typeName, -⟩ := Finding.remark_eq_iff.mp remark
  obtain ⟨o, rfl⟩ := exists_finding_of_findingOf found
  refine ⟨event, _, ?_, path.symm, ?_, remark⟩
  · rw [typeName]
    exact happens
  · rw [typeName, rule]
    exact found

end Registry

end SchemaEvolution
