import SchemaEvolution.Proofs.Check.Escalation
import SchemaEvolution.Proofs.Report.Consolidation

/-! # Duplicates of raised findings

Raising makes all findings equally grave before they are put in order, so among findings with one
key the wording decides which is kept (`Finding.mem_consolidate_raised_iff`), and an advisory one may
displace a breaking one.  The required step is read off the findings that are kept and were breaking
before.  Hence it is the same with and without raising exactly if one of these is left, where there
was any.  Main statement: `raising_keeps_required_bump_iff`.
-/

namespace SchemaEvolution

theorem Bump.required_inj {breaking breaking' additions changes : Bool} :
    required breaking additions changes = required breaking' additions changes ↔
      breaking = breaking' := by
  cases breaking <;> cases breaking' <;> cases additions <;> cases changes <;> decide

namespace Finding

/-- Whether the wording of a finding comes before that of all others with its key, where the earlier
    one of two findings with one wording counts. -/
def Leads (findings : List Finding) (f : Finding) : Prop :=
  ∃ before after, findings.filter (·.key == f.key) = before ++ f :: after ∧
    (∀ g ∈ before, f.wording < g.wording) ∧ ∀ g ∈ after, f.wording ≤ g.wording

theorem sortKey_escalate (f : Finding) :
    f.escalate.sortKey = toLex (0, toLex (f.path, toLex (f.rule.text, f.wording))) := by
  unfold escalate
  cases grave : f.severity with
  | advisory => rfl
  | breaking =>
      simp only [sortKey, grave]
      rfl

/-- Of two raised findings with one key the wording decides. -/
theorem notAfter_escalate_iff {f g : Finding} (same : f.key = g.key) :
    f.escalate.notAfter g.escalate = true ↔ f.wording ≤ g.wording := by
  obtain ⟨rule, path⟩ := Prod.mk.inj same
  simp [notAfter_iff, sortKey_escalate, Prod.Lex.toLex_le_toLex, rule, path]

variable {findings : List Finding}

/-- To lead by wording is to lead in the order of findings once all are raised. -/
theorem leads_iff {f : Finding} :
    f.Leads findings ↔
      Sorted.Leads (fun g h => g.escalate.notAfter h.escalate)
        (findings.filter (·.key == f.key)) f := by
  refine exists_congr fun before => exists_congr fun after => and_congr_right fun split => ?_
  have shared (g : Finding) (member : g ∈ before ++ f :: after) : g.key = f.key := by
    rw [← split] at member
    exact beq_iff_eq.mp (List.mem_filter.mp member).2
  refine and_congr (forall₂_congr fun g member => ?_) (forall₂_congr fun g member => ?_)
  · have same := shared g (List.mem_append_left _ member)
    rw [← not_le, ← notAfter_escalate_iff same, Bool.not_eq_true]
  · have same := shared g (List.mem_append_right _ (List.mem_cons_of_mem _ member))
    exact (notAfter_escalate_iff same.symm).symm

/-- Of raised findings the one is kept that leads those with its key. -/
theorem mem_consolidate_raised_iff {g : Finding} :
    g ∈ consolidate true findings ↔ ∃ f, Leads findings f ∧ f.escalate = g := by
  have keyed (f : Finding) (raised : f.escalate = g) : f.key = g.key :=
    raised ▸ (key_escalate f).symm
  rw [mem_consolidate_iff, List.filter_map, Sorted.leads_map_iff]
  refine exists_congr fun f => and_congr_left fun raised => ?_
  rw [leads_iff, keyed f raised]
  simp only [Function.comp_def, key_grade]
  rfl

theorem Leads.mem {f : Finding} (leads : f.Leads findings) : f ∈ findings :=
  List.mem_of_mem_filter (leads_iff.mp leads).mem

theorem exists_leads {f : Finding} (member : f ∈ findings) :
    ∃ g, Leads findings g ∧ g.key = f.key := by
  obtain ⟨_, kept, same⟩ := exists_mem_consolidate true member
  obtain ⟨g, leads, rfl⟩ := mem_consolidate_raised_iff.mp kept
  exact ⟨g, leads, (key_escalate g).symm.trans same⟩

section Unraised

variable (unraised : ∀ f ∈ findings, f.escalated = false)
include unraised

theorem any_consolidate_plain :
    (consolidate false findings).any (fun f => f.isBreaking && !f.escalated) = true ↔
      ∃ f ∈ findings, f.severity = .breaking := by
  have kept := consolidates_consolidate findings
  simp only [List.any_eq_true, Bool.and_eq_true, isBreaking, beq_iff_eq, Bool.not_eq_true']
  constructor
  · rintro ⟨f, member, grave, -⟩
    exact ⟨f, kept.taken f member, grave⟩
  · rintro ⟨f, member, grave⟩
    obtain ⟨g, reported, same⟩ := exists_mem_consolidate false member
    exact ⟨g, reported, kept.gravest g reported f member same.symm grave,
      unraised g (kept.taken g reported)⟩

theorem any_consolidate_raised :
    (consolidate true findings).any (fun f => f.isBreaking && !f.escalated) = true ↔
      ∃ f, Leads findings f ∧ f.severity = .breaking := by
  have told (f : Finding) (leads : f.Leads findings) :
      f.escalate.escalated = false ↔ f.severity = .breaking := by
    rw [← Bool.not_eq_true, escalated_escalate (unraised f leads.mem)]
    cases f.severity <;> simp
  simp only [List.any_eq_true, Bool.and_eq_true, isBreaking, beq_iff_eq, Bool.not_eq_true']
  constructor
  · rintro ⟨_, kept, -, plain⟩
    obtain ⟨f, leads, rfl⟩ := mem_consolidate_raised_iff.mp kept
    exact ⟨f, leads, (told f leads).mp plain⟩
  · rintro ⟨f, leads, grave⟩
    exact ⟨f.escalate, mem_consolidate_raised_iff.mpr ⟨f, leads, rfl⟩, severity_escalate f,
      (told f leads).mpr grave⟩

end Unraised

end Finding

namespace Report

/-- Whether two reports require the same step and judge the declared one alike. -/
structure DemandsAs (report other : Report) : Prop where
  requiredBump : report.requiredBump = other.requiredBump
  versionCheck : report.versionCheck = other.versionCheck

section Assembled

variable {escalateAll : Bool} {findings : List Finding} {stats : DiffStats} {complete : Bool}
  {base candidate : Snapshot} {generatedAt : Timestamp}

theorem requiredBump_assemble :
    (assemble escalateAll findings stats complete base candidate generatedAt).requiredBump =
      Bump.required
        ((Finding.consolidate escalateAll findings).any fun f => f.isBreaking && !f.escalated)
        (0 < stats.added) stats.hasChanges := by
  simp [assemble, List.any_map, Function.comp_def]

theorem versionCheck_assemble :
    (assemble escalateAll findings stats complete base candidate generatedAt).versionCheck = do
      return .of (← base.version) (← candidate.version)
        (assemble escalateAll findings stats complete base candidate generatedAt).requiredBump :=
  rfl

/-- Raising keeps the required step exactly if some breaking finding, if there is any, is worded so
    that it is kept. -/
theorem demandsAs_assemble_iff (unraised : ∀ f ∈ findings, f.escalated = false)
    (stats : DiffStats) (complete : Bool) (base candidate : Snapshot) (generatedAt : Timestamp) :
    (assemble true findings stats complete base candidate generatedAt).DemandsAs
        (assemble false findings stats complete base candidate generatedAt) ↔
      ((∃ f ∈ findings, f.severity = .breaking) →
        ∃ f : Finding, f.Leads findings ∧ f.severity = .breaking) := by
  have bumps : (assemble true findings stats complete base candidate generatedAt).requiredBump =
        (assemble false findings stats complete base candidate generatedAt).requiredBump ↔
      ((∃ f ∈ findings, f.severity = .breaking) →
        ∃ f : Finding, f.Leads findings ∧ f.severity = .breaking) := by
    rw [requiredBump_assemble, requiredBump_assemble, Bump.required_inj, Bool.eq_iff_iff,
      Finding.any_consolidate_plain unraised, Finding.any_consolidate_raised unraised]
    refine ⟨Iff.mpr, fun found => ⟨?_, found⟩⟩
    rintro ⟨f, leads, grave⟩
    exact ⟨f, leads.mem, grave⟩
  rw [← bumps]
  refine ⟨DemandsAs.requiredBump, fun same => ⟨same, ?_⟩⟩
  rw [versionCheck_assemble, versionCheck_assemble, same]

end Assembled

end Report

/-- Of raised findings with one key the one is kept whose wording comes first.  The required step and
    what is said about the declared one are the same with and without raising exactly if one of the
    findings that are kept was breaking before, where any was; so they are where findings with one
    key are equally grave. -/
theorem raising_keeps_required_bump_iff {findings : List Finding}
    (unraised : ∀ f ∈ findings, f.escalated = false) (stats : DiffStats) (complete : Bool)
    (base candidate : Snapshot) (generatedAt : Timestamp) :
    (∀ g, g ∈ Finding.consolidate true findings ↔ ∃ f : Finding, f.Leads findings ∧ f.escalate = g) ∧
    ((Report.assemble true findings stats complete base candidate generatedAt).DemandsAs
        (.assemble false findings stats complete base candidate generatedAt) ↔
      ((∃ f ∈ findings, f.severity = .breaking) →
        ∃ f : Finding, f.Leads findings ∧ f.severity = .breaking)) ∧
    ((∀ f ∈ findings, ∀ g ∈ findings, f.key = g.key → f.severity = g.severity) →
      (Report.assemble true findings stats complete base candidate generatedAt).DemandsAs
        (.assemble false findings stats complete base candidate generatedAt)) := by
  have demands :=
    Report.demandsAs_assemble_iff unraised stats complete base candidate generatedAt
  refine ⟨fun _ => Finding.mem_consolidate_raised_iff, demands, ?_⟩
  intro even
  refine demands.mpr ?_
  rintro ⟨f, member, grave⟩
  obtain ⟨g, leads, same⟩ := Finding.exists_leads member
  exact ⟨g, leads, (even g leads.mem f member same).trans grave⟩

/-- What is said about a field with another type. -/
def retyped (severity : Severity) (message : String) : Finding where
  rule := .typeChange
  severity
  path := "acme.User.id"
  typeName := "acme.User"
  message

def userRelease (patch : Nat) (id : Scalar) : Snapshot where
  label := "release"
  version := some (.release 1 0 patch)
  types := [.message ⟨"acme.User", .proto3, [⟨1, "id", .scalar id, .singular, false, none⟩], .none⟩]

/-- A breaking finding whose wording comes first is kept, and a major step stays required. -/
theorem unreadable_is_kept_before_widened :
    (∀ f ∈ [retyped .advisory "widened", retyped .breaking "unreadable"], f.escalated = false) ∧
      (Report.assemble true [retyped .advisory "widened", retyped .breaking "unreadable"]
        ⟨0, 0, 1⟩ true (userRelease 0 .string) (userRelease 1 .int64) .epoch).DemandsAs
        (.assemble false [retyped .advisory "widened", retyped .breaking "unreadable"]
          ⟨0, 0, 1⟩ true (userRelease 0 .string) (userRelease 1 .int64) .epoch) ∧
      retyped .breaking "unreadable" ∈ Finding.consolidate true
        [retyped .advisory "widened", retyped .breaking "unreadable"] := by
  have unraised :
      ∀ f ∈ [retyped .advisory "widened", retyped .breaking "unreadable"], f.escalated = false := by
    decide
  have leads : (retyped .breaking "unreadable").Leads
      [retyped .advisory "widened", retyped .breaking "unreadable"] := by
    refine ⟨[retyped .advisory "widened"], [], by decide, ?_, by simp⟩
    intro f member
    obtain rfl := List.mem_singleton.mp member
    exact Prod.Lex.toLex_lt_toLex.mpr (.inl (by decide))
  obtain ⟨kept, demands, -⟩ := raising_keeps_required_bump_iff unraised ⟨0, 0, 1⟩ true
    (userRelease 0 .string) (userRelease 1 .int64) .epoch
  exact ⟨unraised, demands.mpr fun _ => ⟨_, leads, rfl⟩, (kept _).mpr ⟨_, leads, rfl⟩⟩

/-- An advisory finding whose wording comes first stands in for a breaking one, so raising turns a
    required major step into a patch, which the candidate declares. -/
theorem narrowed_hides_unreadable :
    (∀ f ∈ [retyped .breaking "unreadable", retyped .advisory "narrowed"], f.escalated = false) ∧
      (userRelease 0 .string).IsBuilt ∧ (userRelease 1 .int64).IsBuilt ∧
      Finding.consolidate true [retyped .breaking "unreadable", retyped .advisory "narrowed"] =
        [{ retyped .breaking "narrowed" with escalated := true }] ∧
      (Report.assemble false [retyped .breaking "unreadable", retyped .advisory "narrowed"]
        ⟨0, 0, 1⟩ true (userRelease 0 .string) (userRelease 1 .int64) .epoch).versionCheck =
        some ⟨.release 1 0 0, .release 1 0 1, .patch, .major, false⟩ ∧
      (Report.assemble true [retyped .breaking "unreadable", retyped .advisory "narrowed"]
        ⟨0, 0, 1⟩ true (userRelease 0 .string) (userRelease 1 .int64) .epoch).versionCheck =
        some ⟨.release 1 0 0, .release 1 0 1, .patch, .patch, true⟩ := by
  have built (patch : Nat) (id : Scalar) (ok : (Draft.build ⟨"release",
      some (.release 1 0 patch), (userRelease patch id).types⟩) = .ok (userRelease patch id)) :
      (userRelease patch id).IsBuilt := ⟨_, ok⟩
  exact ⟨by decide, built 0 .string (by decide +kernel), built 1 .int64 (by decide +kernel),
    by decide +kernel, by decide +kernel, by decide +kernel⟩

end SchemaEvolution
