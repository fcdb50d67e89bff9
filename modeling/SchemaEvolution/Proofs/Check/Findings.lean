import SchemaEvolution.Check.Run
import SchemaEvolution.Proofs.Change.Slot
import SchemaEvolution.Proofs.Config.Selection

/-! # Findings of a run

What the rules say about all names together, and what is left of it in a report.
`mem_rawFindings_iff` says that they find what fires on something that happens, and nothing else.
No two findings share a key, so a report keeps them all: the findings of a report are the graded
findings in another order (`check_findings_perm`).
-/

namespace SchemaEvolution

theorem Severity.eq_breaking_of_place_le {a b : Severity} (graver : a.place ≤ b.place)
    (grave : b = .breaking) : a = .breaking := by
  subst grave
  cases a with
  | breaking => rfl
  | advisory => simp [place] at graver

namespace Finding

theorem firstOfEach_eq_self {findings : List Finding} (distinct : (findings.map key).Nodup) :
    firstOfEach findings = findings := by
  induction findings with
  | nil => rfl
  | cons f rest ih =>
      obtain ⟨fresh, distinctRest⟩ := List.nodup_cons.mp distinct
      rw [firstOfEach, ih distinctRest]
      congr 1
      rw [List.filter_eq_self]
      intro g member
      rw [bne_iff_ne]
      intro same
      exact fresh (same ▸ List.mem_map_of_mem member)

@[simp] theorem key_escalate (f : Finding) : f.escalate.key = f.key := by
  unfold escalate
  split <;> rfl

@[simp] theorem key_annotate (base candidate : Snapshot) (f : Finding) :
    (f.annotate base candidate).key = f.key := by
  unfold annotate
  split <;> rfl

@[simp] theorem isBreaking_annotate (base candidate : Snapshot) (f : Finding) :
    (f.annotate base candidate).isBreaking = f.isBreaking := by
  unfold annotate
  split <;> rfl

@[simp] theorem severity_annotate (base candidate : Snapshot) (f : Finding) :
    (f.annotate base candidate).severity = f.severity := by
  unfold annotate
  split <;> rfl

@[simp] theorem escalated_annotate (base candidate : Snapshot) (f : Finding) :
    (f.annotate base candidate).escalated = f.escalated := by
  unfold annotate
  split <;> rfl

/-- A finding as a run grades it: raised to a breaking one if that is asked for. -/
def grade (escalateAll : Bool) (f : Finding) : Finding := if escalateAll then f.escalate else f

@[simp] theorem grade_false (f : Finding) : f.grade false = f := rfl

@[simp] theorem key_grade (escalateAll : Bool) (f : Finding) :
    (f.grade escalateAll).key = f.key := by
  unfold grade
  split
  · exact key_escalate f
  · rfl

@[simp] theorem affected_grade (escalateAll : Bool) (f : Finding) :
    (f.grade escalateAll).affected = f.affected := by
  unfold grade escalate
  cases escalateAll <;> cases f.severity <;> rfl

theorem consolidate_eq_firstOfEach (escalateAll : Bool) (findings : List Finding) :
    consolidate escalateAll findings =
      firstOfEach (Sorted.sortStable notAfter (findings.map (grade escalateAll))) := by
  have ungraded : findings.map (grade false) = findings := List.map_id findings
  cases escalateAll with
  | false => rw [ungraded]; rfl
  | true => rfl

/-- Where no two findings share a key, consolidation grades the findings and sorts them. -/
theorem consolidate_eq_sortStable (escalateAll : Bool) {findings : List Finding}
    (distinct : (findings.map key).Nodup) :
    consolidate escalateAll findings =
      Sorted.sortStable notAfter (findings.map (grade escalateAll)) := by
  have sorted := Sorted.sortStable_perm notAfter (findings.map (grade escalateAll))
  have keys : ((findings.map (grade escalateAll)).map key) = findings.map key := by
    simp [Function.comp_def]
  have distinctSorted := (sorted.map key).nodup_iff.mpr (keys ▸ distinct)
  rw [consolidate_eq_firstOfEach, firstOfEach_eq_self distinctSorted]

/-- Where no two findings share a key, consolidation loses none. -/
theorem consolidate_perm (escalateAll : Bool) {findings : List Finding}
    (distinct : (findings.map key).Nodup) :
    (consolidate escalateAll findings).Perm (findings.map (grade escalateAll)) := by
  rw [consolidate_eq_sortStable escalateAll distinct]
  exact Sorted.sortStable_perm notAfter _

end Finding

namespace Registry

/-- What the rules find in all names together, before a report puts it in order. -/
def rawFindings (r : Registry) (base candidate : Snapshot) : List Finding :=
  (TypePair.all base candidate).flatMap fun pair => r.evaluate base candidate (.of pair)

/-- What the rules of a registry consult. -/
def context (r : Registry) (base candidate : Snapshot) : RuleContext :=
  ⟨base, candidate, r.settings⟩

variable {r : Registry} {base candidate : Snapshot} {ctx : RuleContext} {name : String}
  {event : ChangeEvent} {id : RuleId} {f : Finding}

/-- A finding of a rule is an observation of it with what the registry adds. -/
theorem exists_finding_of_findingOf (found : r.findingOf ctx name event id = some f) :
    ∃ o, f = r.finding name event id o := by
  unfold findingOf at found
  split at found
  · obtain ⟨o, -, rfl⟩ := Option.map_eq_some_iff.mp found
    exact ⟨o, rfl⟩
  · cases found
    exact ⟨_, rfl⟩

theorem key_of_findingOf (found : r.findingOf ctx name event id = some f) :
    f.key = (id, event.path) := by
  obtain ⟨o, rfl⟩ := exists_finding_of_findingOf found
  rfl

/-- A rule that fires makes a finding, and the outcome decides its severity. -/
theorem map_severity_findingOf (r : Registry) (ctx : RuleContext) (name : String)
    (event : ChangeEvent) (id : RuleId) :
    (r.findingOf ctx name event id).map Finding.severity =
      (id.outcome? ctx event).map (r.severities.get id) := by
  unfold findingOf RuleId.outcome?
  cases id.check ctx event with
  | error fault => rfl
  | ok answer => cases answer <;> rfl

theorem exists_outcome_of_findingOf (found : r.findingOf ctx name event id = some f) :
    ∃ o, id.outcome? ctx event = some o ∧ r.severities.get id o = f.severity := by
  have graded := r.map_severity_findingOf ctx name event id
  rw [found, Option.map_some] at graded
  exact Option.map_eq_some_iff.mp graded.symm

theorem exists_findingOf_of_outcome {o : Outcome} (fires : id.outcome? ctx event = some o)
    (name : String) :
    ∃ f, r.findingOf ctx name event id = some f ∧ f.severity = r.severities.get id o := by
  have graded := r.map_severity_findingOf ctx name event id
  rw [fires, Option.map_some] at graded
  exact Option.map_eq_some_iff.mp graded

theorem isSome_findingOf (r : Registry) (ctx : RuleContext) (name : String) (event : ChangeEvent)
    (id : RuleId) :
    (r.findingOf ctx name event id).isSome = (id.outcome? ctx event).isSome := by
  have severities := congrArg Option.isSome (r.map_severity_findingOf ctx name event id)
  rwa [Option.isSome_map, Option.isSome_map] at severities

theorem mem_evaluate_iff {d : TypeDiff} :
    f ∈ r.evaluate base candidate d ↔
      ∃ event ∈ d.events, ∃ id ∈ r.rules,
        r.findingOf (r.context base candidate) d.name event id = some f := by
  simp only [evaluate, context, List.mem_flatMap, List.mem_filterMap]

/-- Rules do not know who is affected. -/
theorem affected_of_mem_evaluate {d : TypeDiff} (found : f ∈ r.evaluate base candidate d) :
    f.affected = [] := by
  obtain ⟨event, -, id, -, found⟩ := mem_evaluate_iff.mp found
  obtain ⟨o, rfl⟩ := exists_finding_of_findingOf found
  rfl

/-- What happens under a name is what the diff of the name emits. -/
theorem happens_iff_mem_events (validBase : base.Valid) (validCandidate : candidate.Valid) :
    Happens base candidate name event ↔
      ∃ pair ∈ TypePair.all base candidate, pair.name = name ∧
        event ∈ (TypeDiff.of pair).events := by
  constructor
  · intro happens
    have known := happens.known
    rw [happens_iff_mem_ofTypes validBase validCandidate] at happens
    exact ⟨⟨name, base.get? name, candidate.get? name⟩,
      TypePair.mem_all_iff.mpr ⟨rfl, rfl, known⟩, rfl, happens⟩
  · rintro ⟨pair, member, rfl, emitted⟩
    obtain ⟨old, new, -⟩ := TypePair.mem_all_iff.mp member
    rw [happens_iff_mem_ofTypes validBase validCandidate, ← old, ← new]
    exact emitted

theorem mem_rawFindings_iff (validBase : base.Valid) (validCandidate : candidate.Valid) :
    f ∈ r.rawFindings base candidate ↔
      ∃ name event id, Happens base candidate name event ∧ id ∈ r.rules ∧
        r.findingOf (r.context base candidate) name event id = some f := by
  simp only [rawFindings, List.mem_flatMap, mem_evaluate_iff,
    happens_iff_mem_events validBase validCandidate]
  constructor
  · rintro ⟨pair, member, event, emitted, id, enabled, found⟩
    exact ⟨pair.name, event, id, ⟨pair, member, rfl, emitted⟩, enabled, found⟩
  · rintro ⟨name, event, id, ⟨pair, member, rfl, emitted⟩, enabled, found⟩
    exact ⟨pair, member, event, emitted, id, enabled, found⟩

/-- Findings with one key come from one rule and from events that stand at one place. -/
theorem not_apart_of_key_eq {otherName : String} {otherEvent : ChangeEvent} {otherId : RuleId}
    {g : Finding} (foundF : r.findingOf ctx name event id = some f)
    (foundG : r.findingOf ctx otherName otherEvent otherId = some g) (same : f.key = g.key) :
    id = otherId ∧ event.site = otherEvent.site ∧ event.path = otherEvent.path := by
  rw [key_of_findingOf foundF, key_of_findingOf foundG, Prod.mk.injEq] at same
  obtain ⟨rfl, paths⟩ := same
  have firesF : (id.outcome? ctx event).isSome := by rw [← isSome_findingOf, foundF]; rfl
  have firesG : (id.outcome? ctx otherEvent).isSome := by rw [← isSome_findingOf, foundG]; rfl
  obtain ⟨_, firesF⟩ := Option.isSome_iff_exists.mp firesF
  obtain ⟨_, firesG⟩ := Option.isSome_iff_exists.mp firesG
  refine ⟨rfl, ?_, paths⟩
  rw [← RuleId.site_eq_of_fires firesF, RuleId.site_eq_of_fires firesG]

/-- No two findings of one name share a key. -/
theorem pairwise_evaluate (distinct : r.rules.Nodup) {d : TypeDiff}
    (apart : d.events.Pairwise Apart) :
    (r.evaluate base candidate d).Pairwise fun f g => f.key ≠ g.key := by
  unfold evaluate
  rw [List.pairwise_flatMap]
  constructor
  · intro event _
    rw [List.pairwise_filterMap]
    refine distinct.imp ?_
    intro id otherId differ f foundF g foundG same
    exact differ (not_apart_of_key_eq foundF foundG same).1
  · refine apart.imp ?_
    intro event otherEvent apart f memberF g memberG same
    obtain ⟨id, -, foundF⟩ := List.mem_filterMap.mp memberF
    obtain ⟨otherId, -, foundG⟩ := List.mem_filterMap.mp memberG
    exact apart (not_apart_of_key_eq foundF foundG same).2

/-- No two findings share a key, over all names together. -/
theorem nodup_key_rawFindings (distinct : r.rules.Nodup) (validBase : base.Valid)
    (validCandidate : candidate.Valid) :
    ((r.rawFindings base candidate).map Finding.key).Nodup := by
  rw [List.Nodup, List.pairwise_map, rawFindings, List.pairwise_flatMap]
  constructor
  · intro pair member
    exact pairwise_evaluate distinct (pairwise_events_of_pair validBase validCandidate member)
  · refine (List.Pairwise.and_mem.mp TypePair.pairwise_all).imp ?_
    rintro pair other ⟨member, memberOther, before⟩ f foundF g foundG same
    obtain ⟨event, emitted, id, -, foundF⟩ := mem_evaluate_iff.mp foundF
    obtain ⟨otherEvent, emittedOther, otherId, -, foundG⟩ := mem_evaluate_iff.mp foundG
    obtain ⟨-, site, path⟩ := not_apart_of_key_eq foundF foundG same
    have happens := (happens_iff_mem_events validBase validCandidate).mpr
      ⟨pair, member, rfl, emitted⟩
    have happensOther := (happens_iff_mem_events validBase validCandidate).mpr
      ⟨other, memberOther, rfl, emittedOther⟩
    have names := happens.name_eq validBase validCandidate happensOther site path
    rw [names, nameBefore_isStrictOrder.irrefl] at before
    cases before

/-- The rules that fire and the events that they fire on, over all names. -/
def firings (r : Registry) (base candidate : Snapshot) : List (RuleId × ChangeEvent) :=
  (TypePair.all base candidate).flatMap fun pair => (TypeDiff.of pair).events.flatMap fun event =>
    (r.rules.filter fun id => (id.outcome? (r.context base candidate) event).isSome).map
      fun id => (id, event)

/-- Every firing makes a finding, and nothing else does. -/
theorem map_key_rawFindings :
    (r.rawFindings base candidate).map Finding.key =
      (r.firings base candidate).map fun firing => (firing.1, firing.2.path) := by
  have rulesAt (name : String) (event : ChangeEvent) (rules : List RuleId) :
      (rules.filterMap (r.findingOf (r.context base candidate) name event)).map Finding.key =
        (rules.filter fun id => (id.outcome? (r.context base candidate) event).isSome).map
          fun id => (id, event.path) := by
    induction rules with
    | nil => rfl
    | cons id rest ih =>
        have fires := r.isSome_findingOf (r.context base candidate) name event id
        cases found : r.findingOf (r.context base candidate) name event id with
        | none =>
            rw [found] at fires
            rw [List.filterMap_cons_none found, List.filter_cons_of_neg (by simp [← fires]), ih]
        | some f =>
            rw [found] at fires
            rw [List.filterMap_cons_some found, List.filter_cons_of_pos (by simp [← fires]),
              List.map_cons, List.map_cons, ih, key_of_findingOf found]
  simp only [rawFindings, evaluate, firings, List.map_flatMap, List.map_map, Function.comp_def]
  congr 1
  funext pair
  congr 1
  funext event
  exact rulesAt _ event r.rules

theorem check_findings (generatedAt : Timestamp) :
    (r.check base candidate generatedAt).findings =
      (Finding.consolidate r.settings.treatAdvisoryAsError (r.rawFindings base candidate)).map
        (Finding.annotate base candidate) := by
  simp [check, reportOn, Report.assemble, rawFindings, examine, List.flatMap_map]

theorem check_complete (generatedAt : Timestamp) :
    (r.check base candidate generatedAt).complete = true := by
  simp [check, reportOn, Report.assemble]

theorem check_verdict (generatedAt : Timestamp) :
    (r.check base candidate generatedAt).verdict =
      if (r.check base candidate generatedAt).findings.any Finding.isBreaking then .fail
      else .pass := by
  simp [check, reportOn, Report.assemble, Verdict.of]

/-- A report holds the graded findings and no others. -/
theorem check_findings_perm (distinct : r.rules.Nodup) (validBase : base.Valid)
    (validCandidate : candidate.Valid) (generatedAt : Timestamp) :
    (r.check base candidate generatedAt).findings.Perm
      ((r.rawFindings base candidate).map fun f =>
        (f.grade r.settings.treatAdvisoryAsError).annotate base candidate) := by
  rw [check_findings]
  have perm := Finding.consolidate_perm r.settings.treatAdvisoryAsError
    (nodup_key_rawFindings distinct validBase validCandidate)
  have annotated := perm.map (Finding.annotate base candidate)
  rwa [List.map_map] at annotated

theorem map_key_findings_perm (distinct : r.rules.Nodup) (validBase : base.Valid)
    (validCandidate : candidate.Valid) (generatedAt : Timestamp) :
    ((r.check base candidate generatedAt).findings.map Finding.key).Perm
      ((r.rawFindings base candidate).map Finding.key) := by
  have perm := (check_findings_perm distinct validBase validCandidate generatedAt).map Finding.key
  simp only [List.map_map, Function.comp_def, Finding.key_annotate, Finding.key_grade] at perm
  exact perm

/-- No two findings of a report share a key. -/
theorem nodup_key_findings (distinct : r.rules.Nodup) (validBase : base.Valid)
    (validCandidate : candidate.Valid) (generatedAt : Timestamp) :
    ((r.check base candidate generatedAt).findings.map Finding.key).Nodup :=
  (map_key_findings_perm distinct validBase validCandidate generatedAt).nodup_iff.mpr
    (nodup_key_rawFindings distinct validBase validCandidate)

/-- A rule is in a report at a path exactly if it fires on something that happens there. -/
theorem mem_keys_iff (distinct : r.rules.Nodup) (validBase : base.Valid)
    (validCandidate : candidate.Valid) {generatedAt : Timestamp} {path : String} :
    (id, path) ∈ (r.check base candidate generatedAt).findings.map Finding.key ↔
      id ∈ r.rules ∧ ∃ name event, Happens base candidate name event ∧ event.path = path ∧
        (id.outcome? (r.context base candidate) event).isSome := by
  rw [(map_key_findings_perm distinct validBase validCandidate generatedAt).mem_iff, List.mem_map]
  simp only [mem_rawFindings_iff validBase validCandidate]
  constructor
  · rintro ⟨f, ⟨name, event, otherId, happens, enabled, found⟩, key⟩
    rw [key_of_findingOf found, Prod.mk.injEq] at key
    obtain ⟨rfl, path⟩ := key
    exact ⟨enabled, name, event, happens, path, by rw [← r.isSome_findingOf _ name, found]; rfl⟩
  · rintro ⟨enabled, name, event, happens, rfl, fires⟩
    rw [← r.isSome_findingOf _ name] at fires
    obtain ⟨f, found⟩ := Option.isSome_iff_exists.mp fires
    exact ⟨f, ⟨name, event, id, happens, enabled, found⟩, key_of_findingOf found⟩

/-- A rule is in a report exactly if it fires on something that happens. -/
theorem exists_mem_findings_iff (distinct : r.rules.Nodup) (validBase : base.Valid)
    (validCandidate : candidate.Valid) (generatedAt : Timestamp) :
    (∃ f ∈ (r.check base candidate generatedAt).findings, f.rule = id) ↔
      id ∈ r.rules ∧ ∃ name event, Happens base candidate name event ∧
        (id.outcome? (r.context base candidate) event).isSome := by
  constructor
  · rintro ⟨f, member, rfl⟩
    obtain ⟨enabled, name, event, happens, -, fires⟩ :=
      (mem_keys_iff distinct validBase validCandidate).mp (List.mem_map_of_mem member)
    exact ⟨enabled, name, event, happens, fires⟩
  · rintro ⟨enabled, name, event, happens, fires⟩
    have reported :
        (id, event.path) ∈ (r.check base candidate generatedAt).findings.map Finding.key :=
      (mem_keys_iff distinct validBase validCandidate).mpr
        ⟨enabled, name, event, happens, rfl, fires⟩
    obtain ⟨f, member, key⟩ := List.mem_map.mp reported
    exact ⟨f, member, congrArg Prod.fst key⟩

/-- A rule is in a report at the path of something that happens where the rule looks, exactly if it
    fires on just that. -/
theorem mem_keys_findings_iff (distinct : r.rules.Nodup) (validBase : base.Valid)
    (validCandidate : candidate.Valid) {generatedAt : Timestamp}
    (happens : Happens base candidate name event) (site : id.site = event.site) :
    (id, event.path) ∈ (r.check base candidate generatedAt).findings.map Finding.key ↔
      id ∈ r.rules ∧ (id.outcome? (r.context base candidate) event).isSome := by
  rw [mem_keys_iff distinct validBase validCandidate]
  constructor
  · rintro ⟨enabled, otherName, other, happensOther, path, fires⟩
    obtain ⟨o, outcome⟩ := Option.isSome_iff_exists.mp fires
    have sites := (RuleId.site_eq_of_fires outcome).symm.trans site
    rw [happensOther.eq_of_site_path validBase validCandidate happens sites path] at fires
    exact ⟨enabled, fires⟩
  · rintro ⟨enabled, fires⟩
    exact ⟨enabled, name, event, happens, rfl, fires⟩

/-- Without escalation a run has a breaking finding exactly if some rule fires on something that
    happens in a way that is graded as breaking. -/
theorem any_isBreaking_iff (distinct : r.rules.Nodup) (validBase : base.Valid)
    (validCandidate : candidate.Valid) (plain : r.settings.treatAdvisoryAsError = false)
    {generatedAt : Timestamp} :
    (r.check base candidate generatedAt).findings.any Finding.isBreaking = true ↔
      ∃ name event, Happens base candidate name event ∧ ∃ id ∈ r.rules, ∃ o,
        id.outcome? (r.context base candidate) event = some o ∧
          r.severities.get id o = .breaking := by
  have perm := check_findings_perm distinct validBase validCandidate generatedAt
  rw [perm.any_eq, plain, List.any_map]
  simp only [List.any_eq_true, Function.comp_apply, Finding.grade_false,
    Finding.isBreaking_annotate, mem_rawFindings_iff validBase validCandidate]
  constructor
  · rintro ⟨f, ⟨name, event, id, happens, enabled, found⟩, grave⟩
    obtain ⟨o, fires, graded⟩ := exists_outcome_of_findingOf found
    exact ⟨name, event, happens, id, enabled, o, fires, graded.trans (beq_iff_eq.mp grave)⟩
  · rintro ⟨name, event, happens, id, enabled, o, fires, grave⟩
    obtain ⟨f, found, graded⟩ := exists_findingOf_of_outcome (r := r) fires name
    exact ⟨f, ⟨name, event, id, happens, enabled, found⟩, beq_iff_eq.mpr (graded.trans grave)⟩

end Registry

/-- A complete report holds each firing of a rule on an event once: the rules make one finding of
    it, no other finding shares its rule and path, and consolidation drops nothing. -/
theorem complete_report_holds_each_firing_once {base candidate : Snapshot} {settings : Settings}
    (builtBase : base.IsBuilt) (builtCandidate : candidate.IsBuilt)
    (valid : settings.validate = .ok ()) :
    ∃ r, Registry.ofSettings settings = .ok r ∧
      ((r.rawFindings base candidate).map Finding.key).Nodup ∧
      (r.rawFindings base candidate).map Finding.key =
        (r.firings base candidate).map (fun firing => (firing.1, firing.2.path)) ∧
      (Finding.consolidate settings.treatAdvisoryAsError (r.rawFindings base candidate)).Perm
        ((r.rawFindings base candidate).map (Finding.grade settings.treatAdvisoryAsError)) ∧
      ∀ generatedAt, (r.check base candidate generatedAt).complete = true ∧
        ((r.check base candidate generatedAt).findings.map Finding.key).Perm
          ((r.firings base candidate).map fun firing => (firing.1, firing.2.path)) ∧
        ((r.check base candidate generatedAt).findings.map Finding.key).Nodup := by
  obtain ⟨r, ok⟩ := Registry.exists_ofSettings valid
  obtain ⟨-, -, -, rfl⟩ := Registry.ofSettings_eq_ok_iff.mp ok
  have distinct := Registry.nodup_key_rawFindings (Registry.nodup_rules ok) builtBase.valid
    builtCandidate.valid
  refine ⟨r, ok, distinct, Registry.map_key_rawFindings, Finding.consolidate_perm _ distinct, ?_⟩
  intro generatedAt
  have perm := (Registry.check_findings_perm (Registry.nodup_rules ok) builtBase.valid
    builtCandidate.valid generatedAt).map Finding.key
  simp only [List.map_map, Function.comp_def, Finding.key_annotate, Finding.key_grade] at perm
  refine ⟨Registry.check_complete generatedAt, ?_, perm.nodup_iff.mpr distinct⟩
  rw [← Registry.map_key_rawFindings]
  exact perm

/-- A message with a field that is called as a type next to the message is. -/
def profileTwice : Snapshot where
  label := "before"
  version := none
  types := [
    .message ⟨"acme.User", .proto3,
      [⟨1, "id", .scalar .int32, .singular, false, none⟩,
        ⟨2, "Profile", .message "acme.User.Profile", .singular, false, none⟩], .none⟩,
    .message ⟨"acme.User.Profile", .proto3,
      [⟨1, "text", .scalar .string, .singular, false, none⟩], .none⟩]

/-- The message without the field, and the type gone. -/
def profileGone : Snapshot where
  label := "after"
  version := none
  types := [
    .message ⟨"acme.User", .proto3, [⟨1, "id", .scalar .int32, .singular, false, none⟩], .none⟩]

/-- The field and the type go from one path, and both removals are reported. -/
theorem removals_at_one_path_are_both_reported :
    ∃ r, Registry.ofSettings {} = .ok r ∧
      (RuleId.typeRemoved, "acme.User.Profile") ∈
        (r.check profileTwice profileGone .epoch).findings.map Finding.key ∧
      (RuleId.unreservedRemoval, "acme.User.Profile") ∈
        (r.check profileTwice profileGone .epoch).findings.map Finding.key ∧
      ((r.check profileTwice profileGone .epoch).findings.map Finding.key).Nodup := by
  have builtBase : profileTwice.IsBuilt := ⟨⟨"before", none, profileTwice.types⟩, by decide +kernel⟩
  have builtCandidate : profileGone.IsBuilt :=
    ⟨⟨"after", none, profileGone.types⟩, by decide +kernel⟩
  have valid : ({} : Settings).validate = .ok () := by rfl
  obtain ⟨r, ok, -, -, -, reports⟩ :=
    complete_report_holds_each_firing_once builtBase builtCandidate valid
  obtain rfl := Except.ok.inj (Registry.ofSettings_default.symm.trans ok)
  exact ⟨_, ok, by decide +kernel, by decide +kernel, (reports .epoch).2.2⟩

end SchemaEvolution
