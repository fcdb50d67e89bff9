import SchemaEvolution.Proofs.Check.Escalation
import SchemaEvolution.Proofs.Check.Verdict
import SchemaEvolution.Proofs.Wire.Comparison

/-! # Fields with another type

Two rules look at a tag whose type changed: one takes the tags that passed to an unrelated field,
and the other one leaves those alone.  `TypeFits` says without either of them which changes are
harmless.  Main statement: `type_change_is_reported_once`, by which the rules report every other
change between them, and never both.
-/

namespace SchemaEvolution

theorem Superset.references_eq_ok_true_iff {s : Superset} {t u : FieldType} :
    (s.references [] t u).1 = .ok true ↔
      (∃ a b, t = .message a ∧ u = .message b ∧ (s.messages [] a b).1 = .ok true) ∨
        ∃ a b, t = .enum a ∧ u = .enum b ∧ s.enums a b = .ok true := by
  cases t <;> cases u <;> simp [references]

namespace Field

/-- A new type under a tag that readers of the old one can decode: the values stay as many as they
    were, and they convert whole or are of a type that can stand in for the old one. -/
def TypeFits (s : Superset) (f g : Field) : Prop :=
  f.cardinality = g.cardinality ∧
    ((∃ conversion, f.type.conversion? g.type = some conversion ∧ conversion ≠ .narrowing) ∨
      (∃ a b, f.type = .message a ∧ g.type = .message b ∧ (s.messages [] a b).1 = .ok true) ∨
      ∃ a b, f.type = .enum a ∧ g.type = .enum b ∧ s.enums a b = .ok true)

variable {s : Superset} {ctx : RuleContext} {f g : Field}

theorem typeFits_iff :
    f.TypeFits s g ↔ f.cardinality = g.cardinality ∧
      ((∃ conversion, f.type.conversion? g.type = some conversion ∧ conversion ≠ .narrowing) ∨
        (s.references [] f.type g.type).1 = .ok true) := by
  rw [TypeFits, Superset.references_eq_ok_true_iff]

theorem sameFamily_of_references (stands : (s.references [] f.type g.type).1 = .ok true) :
    f.type.sameFamily g.type = true := by
  rcases Superset.references_eq_ok_true_iff.mp stands with ⟨a, b, old, new, -⟩ | ⟨a, b, old, new, -⟩
  · rw [old, new]; rfl
  · rw [old, new]; rfl

theorem not_isGroup_of_references (stands : (s.references [] f.type g.type).1 = .ok true) :
    (f.type.isGroup || g.type.isGroup) = false := by
  rcases Superset.references_eq_ok_true_iff.mp stands with ⟨a, b, old, new, -⟩ | ⟨a, b, old, new, -⟩
  · rw [old, new]; rfl
  · rw [old, new]; rfl

/-- A tag whose new type fits stays with its field. -/
theorem TypeFits.not_rebound (fits : f.TypeFits s g) : ¬ f.Rebound g := by
  rintro ⟨-, unrelated⟩
  rw [FieldType.wireRelated, Bool.or_eq_false_iff] at unrelated
  obtain ⟨family, converts⟩ := unrelated
  rcases (typeFits_iff.mp fits).2 with ⟨conversion, found, -⟩ | stands
  · simp [found] at converts
  · simp [sameFamily_of_references stands] at family

/-- The comparison of types is silent about a tag that stays with its field exactly if the new type
    fits. -/
theorem typeOutcome?_eq_none_iff (differ : f.type ≠ g.type) (kept : ¬ f.Rebound g) :
    f.typeOutcome? ctx g = none ↔ f.TypeFits ctx.superset g := by
  rw [typeFits_iff]
  rw [← rebinds_iff] at kept
  unfold typeOutcome? FieldType.compare
  simp only [differ, kept, decide_false, Bool.or_self, Bool.false_eq_true, ↓reduceIte]
  by_cases group : (f.type.isGroup || g.type.isGroup) = true
  · have refused : (ctx.superset.references [] f.type g.type).1 ≠ .ok true := fun stands => by
      simp [not_isGroup_of_references stands] at group
    simp [group, FieldType.conversion?_of_isGroup group, refused]
  rw [if_neg group]
  by_cases family : f.type.sameFamily g.type = true
  · rw [if_pos family, FieldType.conversion?_of_sameFamily differ family]
    rcases (ctx.superset.references [] f.type g.type).1 with fault | _ | _ <;>
      by_cases cardinality : f.cardinality = g.cardinality <;> simp [cardinality]
  · have refused : (ctx.superset.references [] f.type g.type).1 ≠ .ok true :=
      fun stands => family (sameFamily_of_references stands)
    rw [if_neg family]
    cases f.type.conversion? g.type with
    | none => simp [refused]
    | some conversion =>
        by_cases cardinality : f.cardinality = g.cardinality <;>
          by_cases narrows : conversion = .narrowing <;> simp [cardinality, narrows, refused]

/-- The comparison of types speaks where the type changed for the worse and the tag did not pass to
    another field. -/
theorem isSome_typeOutcome?_iff (differ : f.type ≠ g.type) :
    (f.typeOutcome? ctx g).isSome = true ↔ ¬ f.Rebound g ∧ ¬ f.TypeFits ctx.superset g := by
  by_cases rebound : f.Rebound g
  · have silent : f.typeOutcome? ctx g = none := by
      simp [typeOutcome?, rebinds_iff.mpr rebound]
    simp [silent, rebound]
  · rw [← typeOutcome?_eq_none_iff differ rebound, ← ne_eq, Option.isSome_iff_ne_none]
    simp [rebound]

/-- Two wire types under a tag that stays with its field are a violation, unless groups keep them
    from being compared. -/
theorem typeOutcome?_of_wireType (apart : f.type.wireType ≠ g.type.wireType)
    (plain : (f.type.isGroup || g.type.isGroup) = false) (kept : ¬ f.Rebound g) :
    f.typeOutcome? ctx g = some .violation := by
  have differ : f.type ≠ g.type := fun same => apart (congrArg FieldType.wireType same)
  have foreign : f.type.compare g.type = .ok .incompatible := by
    cases compares : f.type.compare g.type with
    | error fault =>
        rw [FieldType.compare, if_neg differ, plain] at compares
        split at compares
        case isTrue impossible => cases impossible
        case isFalse => split at compares <;> cases compares
    | ok comparison =>
        by_contra related
        refine apart (FieldType.wireType_eq_of_compare compares ?_)
        rintro rfl
        exact related rfl
  rw [← rebinds_iff] at kept
  simp [typeOutcome?, differ, kept, foreign]

end Field

theorem Finding.grade_of_breaking {x : Finding} (grave : x.severity = .breaking)
    (escalateAll : Bool) : x.grade escalateAll = x := by
  cases escalateAll with
  | false => rfl
  | true => exact escalate_of_breaking grave

namespace Report

/-- The findings of a report about the type of the field at a path. -/
def typeFindings (report : Report) (path : String) : List Finding :=
  report.findings.filter fun x => x.key == (.tagReuse, path) || x.key == (.typeChange, path)

variable {report : Report} {path : String}

theorem mem_typeFindings_iff {x : Finding} :
    x ∈ report.typeFindings path ↔
      x ∈ report.findings ∧ (x.key = (.tagReuse, path) ∨ x.key = (.typeChange, path)) := by
  simp [typeFindings]

theorem exists_reuse_iff :
    (∃ x ∈ report.typeFindings path, x.rule = .tagReuse) ↔
      (RuleId.tagReuse, path) ∈ report.findings.map Finding.key := by
  simp only [mem_typeFindings_iff, List.mem_map]
  constructor
  · rintro ⟨x, ⟨member, reuse | change⟩, rule⟩
    · exact ⟨x, member, reuse⟩
    · cases rule.symm.trans (congrArg Prod.fst change)
  · rintro ⟨x, member, key⟩
    exact ⟨x, ⟨member, .inl key⟩, congrArg Prod.fst key⟩

theorem typeFindings_eq_nil_iff :
    report.typeFindings path = [] ↔
      (RuleId.tagReuse, path) ∉ report.findings.map Finding.key ∧
        (RuleId.typeChange, path) ∉ report.findings.map Finding.key := by
  simp [typeFindings, List.mem_map, forall_and]

/-- Two rules that do not both report at a path leave at most one finding there. -/
theorem length_typeFindings_le (distinct : (report.findings.map Finding.key).Nodup)
    (exclusive : ¬ ((RuleId.tagReuse, path) ∈ report.findings.map Finding.key ∧
      (RuleId.typeChange, path) ∈ report.findings.map Finding.key)) :
    (report.typeFindings path).length ≤ 1 := by
  have apart : (report.typeFindings path).Pairwise fun x y => x.key ≠ y.key :=
    (List.pairwise_map.mp distinct).sublist List.filter_sublist
  match found : report.typeFindings path with
  | [] => exact Nat.zero_le _
  | [x] => exact Nat.le_refl _
  | x :: y :: rest =>
      obtain ⟨memberX, keyX⟩ := mem_typeFindings_iff.mp (found ▸ List.mem_cons_self)
      obtain ⟨memberY, keyY⟩ :=
        mem_typeFindings_iff.mp (found ▸ List.mem_cons_of_mem x List.mem_cons_self)
      have differ : x.key ≠ y.key := (List.pairwise_cons.mp (found ▸ apart)).1 y List.mem_cons_self
      have reportedX := List.mem_map_of_mem (f := Finding.key) memberX
      have reportedY := List.mem_map_of_mem (f := Finding.key) memberY
      refine absurd ?_ exclusive
      rcases keyX with reuseX | changeX <;> rcases keyY with reuseY | changeY
      · exact absurd (reuseX.trans reuseY.symm) differ
      · exact ⟨reuseX ▸ reportedX, changeY ▸ reportedY⟩
      · exact ⟨reuseY ▸ reportedY, changeX ▸ reportedX⟩
      · exact absurd (changeX.trans changeY.symm) differ

end Report

namespace Registry

section Kept

variable {r : Registry} {base candidate : Snapshot} (distinct : r.rules.Nodup)
  (validBase : base.Valid) (validCandidate : candidate.Valid)

include distinct validBase validCandidate

/-- What a rule finds and grades as breaking is in the report as such. -/
theorem exists_breaking_of_fires {name : String} {event : ChangeEvent} {id : RuleId} {o : Outcome}
    (happens : Happens base candidate name event) (enabled : id ∈ r.rules)
    (fires : id.outcome? (r.context base candidate) event = some o)
    (grave : r.severities.get id o = .breaking) (generatedAt : Timestamp) :
    ∃ x ∈ (r.check base candidate generatedAt).findings,
      x.key = (id, event.path) ∧ x.isBreaking = true := by
  obtain ⟨f, found, graded⟩ := exists_findingOf_of_outcome (r := r) fires name
  have severity : f.severity = .breaking := graded.trans grave
  have raw := (mem_rawFindings_iff validBase validCandidate).mpr
    ⟨name, event, id, happens, enabled, found⟩
  have reported := (check_findings_perm distinct validBase validCandidate generatedAt).mem_iff.mpr
    (List.mem_map_of_mem raw)
  refine ⟨_, reported, ?_, ?_⟩
  · rw [Finding.key_annotate, Finding.key_grade, key_of_findingOf found]
  · rw [Finding.isBreaking_annotate, Finding.grade_of_breaking severity, Finding.isBreaking,
      severity]
    rfl

variable {name : String} {old new : MessageType} {f g : Field} {changes : List Change}
  (happens : Happens base candidate name (.modified (.fields old new f g) changes))

include happens

theorem mem_keys_tagReuse_iff (enabled : .tagReuse ∈ r.rules) (generatedAt : Timestamp) :
    (RuleId.tagReuse, s!"{new.name}.{g.name}") ∈
      (r.check base candidate generatedAt).findings.map Finding.key ↔ f.Rebound g := by
  refine (mem_keys_findings_iff distinct validBase validCandidate happens rfl).trans ?_
  simp [enabled, ← Field.rebinds_iff]

theorem mem_keys_typeChange_iff (enabled : .typeChange ∈ r.rules) (differ : f.type ≠ g.type)
    (generatedAt : Timestamp) :
    (RuleId.typeChange, s!"{new.name}.{g.name}") ∈
      (r.check base candidate generatedAt).findings.map Finding.key ↔
        ¬ f.Rebound g ∧ ¬ f.TypeFits (r.context base candidate).superset g := by
  refine (mem_keys_findings_iff distinct validBase validCandidate happens rfl).trans ?_
  rw [RuleId.outcome?_typeChange, Field.isSome_typeOutcome?_iff differ]
  exact and_iff_right enabled

/-- One of the two rules finds another wire type, and both grade it as breaking unless somebody
    graded them anew. -/
theorem exists_breaking_of_wireType (enabled : ∀ id, id ∈ r.rules)
    (standard : r.severities = .standard) (apart : f.type.wireType ≠ g.type.wireType)
    (plain : (f.type.isGroup || g.type.isGroup) = false) (generatedAt : Timestamp) :
    ∃ x ∈ (r.check base candidate generatedAt).typeFindings s!"{new.name}.{g.name}",
      x.isBreaking = true := by
  have breaks {id : RuleId} (grave : id.severity = .breaking)
      (fires : id.outcome? (r.context base candidate)
        (.modified (.fields old new f g) changes) = some .violation) :=
    exists_breaking_of_fires distinct validBase validCandidate happens (enabled id) fires
      (by rw [standard]; exact grave) generatedAt
  by_cases rebound : f.Rebound g
  · have fires : RuleId.tagReuse.outcome? (r.context base candidate)
        (.modified (.fields old new f g) changes) = some .violation := by
      rw [RuleId.outcome?_tagReuse]
      exact if_pos (Field.rebinds_iff.mpr rebound)
    obtain ⟨x, member, key, breaking⟩ := breaks rfl fires
    exact ⟨x, Report.mem_typeFindings_iff.mpr ⟨member, .inl key⟩, breaking⟩
  · have fires : RuleId.typeChange.outcome? (r.context base candidate)
        (.modified (.fields old new f g) changes) = some .violation := by
      rw [RuleId.outcome?_typeChange]
      exact Field.typeOutcome?_of_wireType apart plain rebound
    obtain ⟨x, member, key, breaking⟩ := breaks rfl fires
    exact ⟨x, Report.mem_typeFindings_iff.mpr ⟨member, .inr key⟩, breaking⟩

end Kept

end Registry

/-- A complete report says at most one thing about a tag whose type changed.  It says nothing
    exactly if the new type fits, and speaks of reuse exactly if the tag passed to an unrelated
    field.  Under the standard grades another wire type is breaking, groups apart. -/
theorem type_change_is_reported_once {base candidate : Snapshot} {settings : Settings}
    {r : Registry} (builtBase : base.IsBuilt) (builtCandidate : candidate.IsBuilt)
    (ok : Registry.ofSettings settings = .ok r) (allRules : r.rules = RuleId.all)
    {old new : MessageType} (before : .message old ∈ base.types)
    (after : .message new ∈ candidate.types) (same : old.name = new.name) {f g : Field}
    (liveOld : f ∈ old.fields) (liveNew : g ∈ new.fields) (number : f.number = g.number)
    (differ : f.type ≠ g.type) (generatedAt : Timestamp) :
    let found := (r.check base candidate generatedAt).typeFindings s!"{new.name}.{g.name}"
    found.length ≤ 1 ∧
      (found = [] ↔ f.TypeFits ⟨base, candidate, settings.allowNarrowing⟩ g) ∧
      ((∃ x ∈ found, x.rule = .tagReuse) ↔ f.Rebound g) ∧
      (settings.severityOverrides = [] → f.type.wireType ≠ g.type.wireType →
        f.type.isGroup = false → g.type.isGroup = false →
        ∃ x ∈ found, x.isBreaking = true) := by
  intro found
  obtain ⟨-, -, graded, rfl⟩ := Registry.ofSettings_eq_ok_iff.mp ok
  have distinct := Registry.nodup_rules ok
  have enabled (id : RuleId) : id ∈ r.rules := by
    rw [allRules]
    cases id <;> decide
  have changed : f.changes old.reserved g ≠ [] := fun unchanged =>
    differ (Field.changes_eq_nil_iff.mp unchanged).2.1
  have happens : Happens base candidate old.name
      (.modified (.fields old new f g) (f.changes old.reserved g)) :=
    .field before after same (.modified liveOld liveNew number changed)
  have reuse := Registry.mem_keys_tagReuse_iff distinct builtBase.valid builtCandidate.valid happens
    (enabled _) generatedAt
  have change := Registry.mem_keys_typeChange_iff distinct builtBase.valid builtCandidate.valid
    happens (enabled _) differ generatedAt
  refine ⟨?_, ?_, ?_, ?_⟩
  · refine Report.length_typeFindings_le
      (Registry.nodup_key_findings distinct builtBase.valid builtCandidate.valid generatedAt) ?_
    rw [reuse, change]
    exact fun both => both.2.1 both.1
  · rw [Report.typeFindings_eq_nil_iff, reuse, change, not_and, not_not]
    exact ⟨fun ⟨kept, fits⟩ => fits kept, fun fits => ⟨fits.not_rebound, fun _ => fits⟩⟩
  · exact Report.exists_reuse_iff.trans reuse
  · intro standard apart plainOld plainNew
    rw [Settings.severities, standard] at graded
    exact Registry.exists_breaking_of_wireType distinct builtBase.valid builtCandidate.valid happens
      enabled (Except.ok.inj graded).symm apart (by rw [plainOld, plainNew]; rfl) generatedAt

/-- A parcel whose weight is a number. -/
def parcelWeighed : Snapshot where
  label := "weighed"
  version := none
  types := [.message ⟨"acme.Parcel", .proto3,
    [⟨1, "weight", .scalar .int32, .singular, false, none⟩], .none⟩]

/-- The parcel with a note under the tag of the weight. -/
def parcelNoted : Snapshot where
  label := "noted"
  version := none
  types := [.message ⟨"acme.Parcel", .proto3,
    [⟨1, "note", .scalar .string, .singular, false, none⟩], .none⟩]

/-- A tag that passes to an unrelated field of another wire type is reported once, as reuse. -/
theorem note_for_weight_is_breaking_reuse :
    ∃ r, Registry.ofSettings {} = .ok r ∧
      ((r.check parcelWeighed parcelNoted .epoch).typeFindings "acme.Parcel.note").length ≤ 1 ∧
      (∃ x ∈ (r.check parcelWeighed parcelNoted .epoch).typeFindings "acme.Parcel.note",
        x.rule = .tagReuse) ∧
      ∃ x ∈ (r.check parcelWeighed parcelNoted .epoch).typeFindings "acme.Parcel.note",
        x.isBreaking = true := by
  have builtBase : parcelWeighed.IsBuilt :=
    ⟨⟨"weighed", none, parcelWeighed.types⟩, by decide +kernel⟩
  have builtCandidate : parcelNoted.IsBuilt :=
    ⟨⟨"noted", none, parcelNoted.types⟩, by decide +kernel⟩
  obtain ⟨once, -, reuse, grave⟩ := type_change_is_reported_once builtBase builtCandidate
    Registry.ofSettings_default rfl (List.mem_singleton.mpr rfl) (List.mem_singleton.mpr rfl) rfl
    (List.mem_singleton.mpr rfl) (List.mem_singleton.mpr rfl) rfl (by decide) .epoch
  exact ⟨.default, Registry.ofSettings_default, once, reuse.mpr ⟨by decide, by decide⟩,
    grave rfl (by decide) rfl rfl⟩

end SchemaEvolution
