import SchemaEvolution.Proofs.Change.Replay
import SchemaEvolution.Proofs.Check.Findings

/-! # Runs that find nothing

Nothing happens between two snapshots exactly if they are alike (`happens_nothing_iff`), and then a
run has nothing to report.  Conversely no difference escapes the counts: whatever happens under a
name, something that counts happens under the name (`Happens.exists_counted`), so a run that
requires no step has seen no difference (`required_bump_is_none_iff_alike`).
-/

namespace SchemaEvolution

section Diff

theorem Reservations.changes_eq_nil_iff {r q : Reservations} :
    r.changes q = [] ↔ r.Alike q := by
  unfold changes
  rw [List.append_eq_nil_iff, ite_eq_left_iff, ite_eq_left_iff, rangeSet_eq_iff]
  constructor
  · intro ⟨ranges, names⟩
    exact ⟨by simpa using ranges, by simpa using names⟩
  · intro alike
    exact ⟨fun differ => absurd alike.ranges differ, fun differ => absurd alike.names differ⟩

theorem Field.changes_self (reserved : Reservations) (f : Field) : f.changes reserved f = [] := by
  simp [changes]

theorem EnumValue.changes_self (reserved : Reservations) (v : EnumValue) :
    v.changes reserved v = [] := by
  simp [changes]

theorem MessageType.Alike.changes_eq_nil {old new : MessageType} (alike : old.Alike new) :
    old.changes new = [] := by
  rw [changes, if_pos alike.dialect, Reservations.changes_eq_nil_iff.mpr alike.reserved]
  rfl

theorem EnumType.Alike.hasZero_eq {old new : EnumType} (alike : old.Alike new) :
    old.hasZero = new.hasZero := by
  simp only [hasZero, value?]
  rw [Bool.eq_iff_iff]
  simp [alike.values.mem_iff]

theorem EnumType.Alike.changes_eq_nil {old new : EnumType} (alike : old.Alike new) :
    old.changes new = [] := by
  rw [changes, if_pos alike.dialect, if_pos alike.hasZero_eq,
    Reservations.changes_eq_nil_iff.mpr alike.reserved]
  rfl

theorem MessageType.Alike.not_happens {old new : MessageType} (alike : old.Alike new)
    (soundNew : Member.Sound new.reserved new.fields) {event : ChangeEvent} :
    ¬ FieldHappens old new event := by
  intro happens
  cases happens with
  | @modified f g before after same changed =>
      have kept : f ∈ new.fields := alike.fields.mem_iff.mp before
      obtain rfl : f = g := soundNew.eq_of_number kept after (congrArg Int.ofNat same)
      exact changed (Field.changes_self _ _)
  | added after fresh => exact fresh _ (alike.fields.mem_iff.mpr after) rfl
  | removed before gone => exact gone _ (alike.fields.mem_iff.mp before) rfl

theorem EnumType.Alike.not_happens {old new : EnumType} (alike : old.Alike new)
    (soundNew : Member.Sound new.reserved new.values) {event : ChangeEvent} :
    ¬ ValueHappens old new event := by
  intro happens
  cases happens with
  | @modified v w before after same changed =>
      have kept : v ∈ new.values := alike.values.mem_iff.mp before
      obtain rfl : v = w := soundNew.eq_of_number kept after same
      exact changed (EnumValue.changes_self _ _)
  | added after fresh => exact fresh _ (alike.values.mem_iff.mpr after) rfl
  | removed before gone => exact gone _ (alike.values.mem_iff.mp before) rfl

variable {base candidate : Snapshot}

/-- Two definitions without an event between them are alike. -/
theorem alike_of_ofTypes_eq_nil (validBase : base.Valid) (validCandidate : candidate.Valid)
    {old new : TypeDef} (before : old ∈ base.types) (after : new ∈ candidate.types)
    (name : old.name = new.name) (silent : ChangeEvent.ofTypes (some old) (some new) = []) :
    old.Alike new := by
  cases old with
  | message old =>
      cases new with
      | enum new => cases silent
      | message new =>
          have replayed := MessageType.alike_replay (validBase.messages old before).sound
            (validCandidate.messages new after).sound name
          rw [show ChangeEvent.ofMessages old new = [] from silent] at replayed
          exact .message replayed
  | enum old =>
      cases new with
      | message new => cases silent
      | enum new =>
          have replayed := EnumType.alike_replay (validBase.enums old before).sound
            (validCandidate.enums new after).sound name
          rw [show ChangeEvent.ofEnums old new = [] from silent] at replayed
          exact .enum replayed

theorem Snapshot.Alike.exists_alike (alike : base.Alike candidate) (validBase : base.Valid)
    {old : TypeDef} (before : old ∈ base.types) :
    ∃ new ∈ candidate.types, new.name = old.name ∧ old.Alike new := by
  have related := alike old.name
  rw [validBase.get?_of_mem before rfl] at related
  obtain ⟨new, found, same⟩ := exists_of_rel related
  obtain ⟨after, named⟩ := mem_of_get? found
  exact ⟨new, after, named, same⟩

theorem Snapshot.Alike.message (alike : base.Alike candidate) (validBase : base.Valid)
    (validCandidate : candidate.Valid) {old new : MessageType} (before : .message old ∈ base.types)
    (after : .message new ∈ candidate.types) (name : old.name = new.name) : old.Alike new := by
  obtain ⟨found, inside, named, same⟩ := alike.exists_alike validBase before
  obtain rfl := validCandidate.eq_of_name inside after (named.trans name)
  cases same with
  | message same => exact same

theorem Snapshot.Alike.enum (alike : base.Alike candidate) (validBase : base.Valid)
    (validCandidate : candidate.Valid) {old new : EnumType} (before : .enum old ∈ base.types)
    (after : .enum new ∈ candidate.types) (name : old.name = new.name) : old.Alike new := by
  obtain ⟨found, inside, named, same⟩ := alike.exists_alike validBase before
  obtain rfl := validCandidate.eq_of_name inside after (named.trans name)
  cases same with
  | enum same => exact same

/-- Nothing happens between two snapshots exactly if they define the same. -/
theorem happens_nothing_iff (validBase : base.Valid) (validCandidate : candidate.Valid) :
    (∀ name event, ¬ Happens base candidate name event) ↔ base.Alike candidate := by
  constructor
  · intro nothing name
    have silent : ChangeEvent.ofTypes (base.get? name) (candidate.get? name) = [] := by
      rw [List.eq_nil_iff_forall_not_mem]
      intro event emitted
      exact nothing name event ((happens_iff_mem_ofTypes validBase validCandidate).mpr emitted)
    cases foundOld : base.get? name with
    | none =>
        cases foundNew : candidate.get? name with
        | none => exact .none
        | some new =>
            rw [foundOld, foundNew] at silent
            cases silent
    | some old =>
        cases foundNew : candidate.get? name with
        | none =>
            rw [foundOld, foundNew] at silent
            cases silent
        | some new =>
            rw [foundOld, foundNew] at silent
            obtain ⟨before, named⟩ := Snapshot.mem_of_get? foundOld
            obtain ⟨after, same⟩ := Snapshot.mem_of_get? foundNew
            exact .some (alike_of_ofTypes_eq_nil validBase validCandidate before after
              (named.trans same.symm) silent)
  · intro alike name event happens
    cases happens with
    | typeAdded after fresh =>
        obtain ⟨old, before, named, same⟩ := alike.symm.exists_alike validCandidate after
        exact fresh old before named same.kind_eq.symm
    | typeRemoved before gone =>
        obtain ⟨new, after, named, same⟩ := alike.exists_alike validBase before
        exact gone new after named same.kind_eq.symm
    | message before after name changed =>
        have same := alike.message validBase validCandidate before after name
        rcases changed with changed | ⟨event, happens⟩
        · exact changed same.changes_eq_nil
        · exact same.not_happens (validCandidate.messages _ after).sound happens
    | field before after name happens =>
        exact (alike.message validBase validCandidate before after name).not_happens
          (validCandidate.messages _ after).sound happens
    | enum before after name changed =>
        have same := alike.enum validBase validCandidate before after name
        rcases changed with changed | ⟨event, happens⟩
        · exact changed same.changes_eq_nil
        · exact same.not_happens (validCandidate.enums _ after).sound happens
    | value before after name happens =>
        exact (alike.enum validBase validCandidate before after name).not_happens
          (validCandidate.enums _ after).sound happens

end Diff

section Counts

namespace DiffStats

@[simp] theorem hasChanges_add (a b : DiffStats) :
    (a + b).hasChanges = (a.hasChanges || b.hasChanges) := by
  change (a.add b).hasChanges = _
  apply Bool.eq_iff_iff.mpr
  rw [Bool.or_eq_true, hasChanges, hasChanges, hasChanges, decide_eq_true_iff, decide_eq_true_iff,
    decide_eq_true_iff]
  simp only [add]
  omega

theorem hasChanges_ofEvents (events : List ChangeEvent) :
    (ofEvents events).hasChanges = events.any fun event => (ofEvent event).hasChanges := by
  induction events with
  | nil => rfl
  | cons event rest ih =>
      change (ofEvent event + ofEvents rest).hasChanges = _
      rw [hasChanges_add, ih, List.any_cons]

theorem hasChanges_sum (stats : List DiffStats) :
    (sum stats).hasChanges = stats.any hasChanges := by
  induction stats with
  | nil => rfl
  | cons first rest ih =>
      change (first + sum rest).hasChanges = _
      rw [hasChanges_add, ih, List.any_cons]

theorem eq_zero_of_not_hasChanges {s : DiffStats} (silent : s.hasChanges = false) : s = zero := by
  obtain ⟨added, removed, modified⟩ := s
  simp only [hasChanges, decide_eq_false_iff_not] at silent
  simp only [zero, mk.injEq]
  omega

end DiffStats

/-- Whether an event is counted.  That of a type whose members alone changed is not. -/
def ChangeEvent.Counted (event : ChangeEvent) : Prop := (DiffStats.ofEvent event).hasChanges = true

theorem ChangeEvent.counted_modified {revision : Revision} {changes : List Change}
    (changed : changes ≠ []) : (ChangeEvent.modified revision changes).Counted := by
  change (if changes.isEmpty then DiffStats.zero else ⟨0, 0, 1⟩).hasChanges = true
  rw [if_neg (by simpa using changed)]
  rfl

theorem FieldHappens.counted {old new : MessageType} {event : ChangeEvent}
    (happens : FieldHappens old new event) : event.Counted := by
  cases happens with
  | modified before after same changed => exact ChangeEvent.counted_modified changed
  | added | removed => rfl

theorem ValueHappens.counted {old new : EnumType} {event : ChangeEvent}
    (happens : ValueHappens old new event) : event.Counted := by
  cases happens with
  | modified before after same changed => exact ChangeEvent.counted_modified changed
  | added | removed => rfl

variable {base candidate : Snapshot}

/-- Where something happens, something happens that is counted. -/
theorem Happens.exists_counted {name : String} {event : ChangeEvent}
    (happens : Happens base candidate name event) :
    ∃ counted, Happens base candidate name counted ∧ counted.Counted := by
  cases happens with
  | typeAdded after fresh => exact ⟨_, .typeAdded after fresh, rfl⟩
  | typeRemoved before gone => exact ⟨_, .typeRemoved before gone, rfl⟩
  | message before after same changed =>
      have here := changed
      rcases changed with changed | ⟨event, happens⟩
      · exact ⟨_, .message before after same here, ChangeEvent.counted_modified changed⟩
      · exact ⟨event, .field before after same happens, happens.counted⟩
  | field before after same happens => exact ⟨_, .field before after same happens, happens.counted⟩
  | enum before after same changed =>
      have here := changed
      rcases changed with changed | ⟨event, happens⟩
      · exact ⟨_, .enum before after same here, ChangeEvent.counted_modified changed⟩
      · exact ⟨event, .value before after same happens, happens.counted⟩
  | value before after same happens => exact ⟨_, .value before after same happens, happens.counted⟩

end Counts

namespace Registry

variable {r : Registry} {base candidate : Snapshot}

theorem check_stats (generatedAt : Timestamp) :
    (r.check base candidate generatedAt).stats =
      .sum ((TypePair.all base candidate).map fun pair => (TypeDiff.of pair).stats) := by
  simp [check, reportOn, Report.assemble, examine, Function.comp_def]

/-- What a run counts does not depend on its rules. -/
theorem check_stats_eq (r s : Registry) (generatedAt : Timestamp) :
    (r.check base candidate generatedAt).stats = (s.check base candidate generatedAt).stats := by
  rw [check_stats, check_stats]

theorem check_requiredBump (generatedAt : Timestamp) :
    (r.check base candidate generatedAt).requiredBump =
      Bump.required
        ((r.check base candidate generatedAt).findings.any fun f => f.isBreaking && !f.escalated)
        (0 < (r.check base candidate generatedAt).stats.added)
        (r.check base candidate generatedAt).stats.hasChanges := by
  rfl

/-- The counts of a run show whether anything happened. -/
theorem hasChanges_check_iff (validBase : base.Valid) (validCandidate : candidate.Valid)
    (generatedAt : Timestamp) :
    (r.check base candidate generatedAt).stats.hasChanges = true ↔
      ∃ name event, Happens base candidate name event := by
  rw [check_stats, DiffStats.hasChanges_sum, List.any_map, List.any_eq_true]
  simp only [Function.comp_apply, TypeDiff.stats, DiffStats.hasChanges_ofEvents, List.any_eq_true]
  constructor
  · intro ⟨pair, member, event, emitted, counted⟩
    exact ⟨pair.name, event, (happens_iff_mem_events validBase validCandidate).mpr
      ⟨pair, member, rfl, emitted⟩⟩
  · intro ⟨name, event, happens⟩
    obtain ⟨counted, happens, counts⟩ := happens.exists_counted
    obtain ⟨pair, member, -, emitted⟩ :=
      (happens_iff_mem_events validBase validCandidate).mp happens
    exact ⟨pair, member, counted, emitted, counts⟩

theorem findings_eq_nil_of_nothing (validBase : base.Valid) (validCandidate : candidate.Valid)
    (nothing : ∀ name event, ¬ Happens base candidate name event) (generatedAt : Timestamp) :
    (r.check base candidate generatedAt).findings = [] := by
  have raw : r.rawFindings base candidate = [] := by
    rw [List.eq_nil_iff_forall_not_mem]
    intro f found
    obtain ⟨name, event, id, happens, -⟩ := (mem_rawFindings_iff validBase validCandidate).mp found
    exact nothing name event happens
  rw [check_findings, raw]
  cases r.settings.treatAdvisoryAsError <;> rfl

end Registry

theorem Bump.required_eq_none_iff {breaking additions changes : Bool} :
    required breaking additions changes = none ↔
      breaking = false ∧ additions = false ∧ changes = false := by
  cases breaking <;> cases additions <;> cases changes <;> simp [required]

theorem Bump.satisfies_none (declared : Bump) (previous : Version) :
    declared.satisfies none previous = true := by
  simp [satisfies, atLeast, rank]

/-- A report of a run that saw no difference. -/
structure Report.Silent (report : Report) : Prop where
  complete : report.complete = true
  verdict : report.verdict = .pass
  findings : report.findings = []
  stats : report.stats = .zero
  requiredBump : report.requiredBump = .none
  satisfied : ∀ v w, report.base.version = some v → report.candidate.version = some w →
    ∃ check, report.versionCheck = some check ∧ check.satisfied = true

theorem Registry.silent_of_nothing {r : Registry} {base candidate : Snapshot}
    (validBase : base.Valid) (validCandidate : candidate.Valid)
    (nothing : ∀ name event, ¬ Happens base candidate name event) (generatedAt : Timestamp) :
    (r.check base candidate generatedAt).Silent := by
  have findings :=
    findings_eq_nil_of_nothing (r := r) validBase validCandidate nothing generatedAt
  have unchanged : (r.check base candidate generatedAt).stats.hasChanges = false := by
    rw [← Bool.not_eq_true, hasChanges_check_iff validBase validCandidate]
    intro ⟨name, event, happens⟩
    exact nothing name event happens
  have stats := DiffStats.eq_zero_of_not_hasChanges unchanged
  have bump : (r.check base candidate generatedAt).requiredBump = .none := by
    rw [check_requiredBump, findings, stats]
    rfl
  refine ⟨check_complete generatedAt, ?_, findings, stats, bump, ?_⟩
  · rw [check_verdict, findings]
    rfl
  · intro v w versionBase versionCandidate
    have compared : (r.check base candidate generatedAt).versionCheck =
        some (.of v w (r.check base candidate generatedAt).requiredBump) := by
      have hasBase : base.version = some v := versionBase
      have hasCandidate : candidate.version = some w := versionCandidate
      simp [check, reportOn, Report.assemble, hasBase, hasCandidate]
    rw [bump] at compared
    exact ⟨_, compared, Bump.satisfies_none _ v⟩

/-- A run requires no step exactly if the two snapshots define the same, and then it reports
    nothing.  In particular it has nothing to say about a snapshot and itself. -/
theorem required_bump_is_none_iff_alike {base candidate : Snapshot} {settings : Settings}
    (builtBase : base.IsBuilt) (builtCandidate : candidate.IsBuilt)
    (valid : settings.validate = .ok ()) :
    ∃ r, Registry.ofSettings settings = .ok r ∧ ∀ generatedAt,
      ((r.check base candidate generatedAt).requiredBump = .none ↔ base.Alike candidate) ∧
        (base.Alike candidate → (r.check base candidate generatedAt).Silent) ∧
        (r.check base base generatedAt).Silent := by
  obtain ⟨r, ok⟩ := Registry.exists_ofSettings valid
  refine ⟨r, ok, ?_⟩
  intro generatedAt
  have silent (other : Snapshot) (built : other.IsBuilt) (alike : base.Alike other) :
      (r.check base other generatedAt).Silent :=
    Registry.silent_of_nothing builtBase.valid built.valid
      ((happens_nothing_iff builtBase.valid built.valid).mpr alike) generatedAt
  refine ⟨⟨?_, fun alike => (silent candidate builtCandidate alike).requiredBump⟩,
    silent candidate builtCandidate, silent base builtBase (.refl base)⟩
  intro none
  rw [Registry.check_requiredBump, Bump.required_eq_none_iff] at none
  rw [← happens_nothing_iff builtBase.valid builtCandidate.valid]
  intro name event happens
  have changed := (Registry.hasChanges_check_iff (r := r) builtBase.valid builtCandidate.valid
    generatedAt).mpr ⟨name, event, happens⟩
  rw [none.2.2] at changed
  cases changed

/-- Two spellings of one enum: the values and ranges in another order, and a range given twice. -/
def gradesShort : Snapshot where
  label := "short"
  version := some (.release 1 2 0)
  types := [.enum ⟨"acme.Grade", .proto3, [⟨0, "NONE"⟩, ⟨1, "GOOD"⟩], ⟨[⟨4, 6⟩, ⟨2, 2⟩], .empty⟩⟩]

def gradesLong : Snapshot where
  label := "long"
  version := some (.release 1 2 0)
  types := [.enum ⟨"acme.Grade", .proto3, [⟨1, "GOOD"⟩, ⟨0, "NONE"⟩],
    ⟨[⟨2, 2⟩, ⟨4, 6⟩, ⟨2, 2⟩], .empty⟩⟩]

theorem grades_are_alike : gradesShort.Alike gradesLong := by
  intro name
  by_cases here : "acme.Grade" = name
  · subst here
    refine .some (.enum ⟨rfl, rfl, .swap _ _ _, ⟨?_, rfl⟩⟩)
    intro range
    simp only [List.mem_cons, List.not_mem_nil, or_false]
    tauto
  · have elsewhere : ("acme.Grade" == name) = false := beq_eq_false_iff_ne.mpr here
    have short : gradesShort.get? name = none := by
      simp [Snapshot.get?, gradesShort, TypeDef.name, elsewhere]
    have long : gradesLong.get? name = none := by
      simp [Snapshot.get?, gradesLong, TypeDef.name, elsewhere]
    rw [short, long]
    exact .none

theorem grades_require_no_step :
    ∃ r, Registry.ofSettings { treatAdvisoryAsError := true } = .ok r ∧
      (r.check gradesShort gradesLong .epoch).requiredBump = .none ∧
      (r.check gradesShort gradesLong .epoch).Silent ∧
      (r.check gradesShort gradesShort .epoch).Silent := by
  have builtShort : gradesShort.IsBuilt :=
    ⟨⟨"short", some (.release 1 2 0), gradesShort.types⟩, by decide +kernel⟩
  have builtLong : gradesLong.IsBuilt :=
    ⟨⟨"long", some (.release 1 2 0), gradesLong.types⟩, by decide +kernel⟩
  have valid : ({ treatAdvisoryAsError := true } : Settings).validate = .ok () := rfl
  obtain ⟨r, ok, reports⟩ := required_bump_is_none_iff_alike builtShort builtLong valid
  obtain ⟨steps, silent, itself⟩ := reports .epoch
  exact ⟨r, ok, steps.mpr grades_are_alike, silent grades_are_alike, itself⟩

end SchemaEvolution
