import SchemaEvolution.Proofs.Check.Findings

/-! # What a verdict means

`Snapshot.Breaks` says in terms of the two snapshots alone when a candidate breaks its base.  Under
the settings that nobody changed a run fails exactly then (`default_verdict_fails_iff_breaks`), so
no event is lost on the way, no rule shadows another one wrongly, and a report drops no finding
that matters.
-/

namespace SchemaEvolution

namespace Field

/-- A tag that passed to a field with another name and an unrelated type. -/
def Rebound (f g : Field) : Prop := f.name ≠ g.name ∧ f.type.wireRelated g.type = false

/-- Two types under one tag that readers do not share. -/
def TypeBreaks (s : Superset) (f g : Field) : Prop :=
  f.type ≠ g.type ∧
    (f.type.compare g.type = .ok .incompatible ∨
      f.type.compare g.type = .ok (.convertible .narrowing) ∨
      (∃ conversion, f.type.compare g.type = .ok (.convertible conversion) ∧
        f.cardinality ≠ g.cardinality) ∨
      f.type.compare g.type = .ok .structural ∧
        ((s.references [] f.type g.type).1 = .ok false ∨
          (s.references [] f.type g.type).1 = .ok true ∧ f.cardinality ≠ g.cardinality))

/-- Two explicit defaults under one tag with which readers assume different values. -/
def DefaultBreaks (base candidate : Snapshot) (f g : Field) : Prop :=
  f.default ≠ g.default ∧
    (f.type ≠ g.type ∨
      ¬ ∃ a b, f.assumedValue? base = some a ∧ g.assumedValue? candidate = some b ∧
        g.type.sameValue a b = true)

/-- A tag that is in use on both sides and that peers understand differently. -/
def Breaks (base candidate : Snapshot) (f g : Field) : Prop :=
  f.Rebound g ∨ (g.cardinality = .required ∧ f.cardinality ≠ .required) ∨
    ¬ f.Rebound g ∧
      ((f.cardinality = .repeated ∧ g.cardinality ≠ .repeated) ∨
        f.TypeBreaks ⟨base, candidate, false⟩ g ∨ f.DefaultBreaks base candidate g)

theorem rebinds_iff {f g : Field} : f.rebinds g = true ↔ f.Rebound g := by
  simp [rebinds, Rebound]

theorem changes_eq_nil_iff {reserved : Reservations} {f g : Field} :
    f.changes reserved g = [] ↔
      f.name = g.name ∧ f.type = g.type ∧ f.cardinality = g.cardinality ∧ f.packed = g.packed ∧
        f.default = g.default := by
  simp [changes]

theorem sameAssumedValue_iff {base candidate : Snapshot} {f g : Field} :
    f.sameAssumedValue base candidate g = true ↔
      ∃ a b, f.assumedValue? base = some a ∧ g.assumedValue? candidate = some b ∧
        g.type.sameValue a b = true := by
  unfold sameAssumedValue
  cases f.assumedValue? base <;> cases g.assumedValue? candidate <;> simp

/-- Nothing breaks where nothing changes. -/
theorem Breaks.changes_ne_nil {base candidate : Snapshot} {reserved : Reservations} {f g : Field}
    (breaks : f.Breaks base candidate g) : f.changes reserved g ≠ [] := by
  intro unchanged
  obtain ⟨name, type, cardinality, -, default⟩ := changes_eq_nil_iff.mp unchanged
  rcases breaks with ⟨renamed, -⟩ | ⟨required, optional⟩ | ⟨-, ⟨repeats, single⟩ | broken | broken⟩
  · exact renamed name
  · exact optional (cardinality.trans required)
  · exact single (cardinality.symm.trans repeats)
  · exact broken.1 type
  · exact broken.1 default

theorem typeOutcome?_eq_violation_iff {ctx : RuleContext} {f g : Field}
    (strict : ctx.settings.allowNarrowing = false) :
    f.typeOutcome? ctx g = some .violation ↔ ¬ f.Rebound g ∧ f.TypeBreaks ctx.superset g := by
  rw [← rebinds_iff]
  unfold typeOutcome? TypeBreaks
  by_cases same : f.type = g.type
  · simp [same]
  by_cases rebound : f.rebinds g = true
  · simp [rebound]
  simp only [same, rebound, decide_false, Bool.or_self, Bool.false_eq_true, ↓reduceIte,
    not_false_eq_true, ne_eq, true_and]
  cases f.type.compare g.type with
  | error fault => simp
  | ok comparison =>
      cases comparison with
      | same => simp
      | incompatible => simp
      | convertible conversion =>
          by_cases cardinality : f.cardinality = g.cardinality <;> simp [cardinality, strict]
      | structural =>
          rcases (ctx.superset.references [] f.type g.type).1 with fault | _ | _ <;>
            simp

end Field

namespace ChangeEvent

/-- An event in which some rule finds what is breaking unless somebody graded it anew. -/
def Breaking (ctx : RuleContext) (event : ChangeEvent) : Prop :=
  ∃ id o, id.outcome? ctx event = some o ∧ SeverityTable.standard.get id o = .breaking

variable {ctx : RuleContext} {event : ChangeEvent}

/-- Only the comparison of types and of multiplicities tolerates a direction. -/
theorem eq_of_relaxed {id : RuleId} (fires : id.outcome? ctx event = some .relaxed) :
    SeverityTable.standard.get id .relaxed = .advisory := by
  rcases event with ⟨_ | _ | _ | _, _⟩ | ⟨_ | _ | _ | _, _⟩ | ⟨_ | _ | _ | _, _⟩ <;>
    cases id <;> simp_all [SeverityTable.standard, SeverityTable.get, RuleId.relaxedSeverity,
      RuleId.severity, ite_eq_iff]

/-- Six rules decide, each by what it exists to catch. -/
theorem breaking_iff :
    event.Breaking ctx ↔
      RuleId.tagReuse.outcome? ctx event = some .violation ∨
      RuleId.requiredAdded.outcome? ctx event = some .violation ∨
      RuleId.repeatedToScalar.outcome? ctx event = some .violation ∨
      RuleId.typeChange.outcome? ctx event = some .violation ∨
      RuleId.defaultValueChanged.outcome? ctx event = some .violation ∨
      RuleId.enumValueReuse.outcome? ctx event = some .violation := by
  constructor
  · rintro ⟨id, o, fires, grave⟩
    cases o with
    | unevaluated => cases grave
    | relaxed =>
        rw [eq_of_relaxed fires] at grave
        cases grave
    | violation =>
        cases id with
        | tagReuse => exact .inl fires
        | requiredAdded => exact .inr (.inl fires)
        | repeatedToScalar => exact .inr (.inr (.inl fires))
        | typeChange => exact .inr (.inr (.inr (.inl fires)))
        | defaultValueChanged => exact .inr (.inr (.inr (.inr (.inl fires))))
        | enumValueReuse => exact .inr (.inr (.inr (.inr (.inr fires))))
        | _ => cases grave
  · rintro (fires | fires | fires | fires | fires | fires) <;> exact ⟨_, _, fires, rfl⟩

theorem breaking_added_field {m : MessageType} {g : Field} {before : ReservationStatus} :
    Breaking ctx (.added (.field m g) before) ↔
      before.number = true ∨ g.cardinality = .required := by
  simp [breaking_iff, Cardinality.isRequired]

theorem defaultValueChanged_iff {old new : MessageType} {f g : Field} {changes : List Change} :
    RuleId.defaultValueChanged.outcome? ctx (.modified (.fields old new f g) changes) =
      some .violation ↔ ¬ f.Rebound g ∧ f.DefaultBreaks ctx.base ctx.candidate g := by
  rw [RuleId.outcome?_defaultValueChanged, ← Field.rebinds_iff, Field.DefaultBreaks,
    ← Field.sameAssumedValue_iff]
  by_cases texts : f.default = g.default
  · simp [texts]
  by_cases rebound : f.rebinds g = true
  · simp [rebound]
  · by_cases types : f.type = g.type <;> simp [texts, rebound, types]

theorem breaking_modified_field {old new : MessageType} {f g : Field} {changes : List Change}
    (strict : ctx.settings.allowNarrowing = false) :
    Breaking ctx (.modified (.fields old new f g) changes) ↔
      f.Breaks ctx.base ctx.candidate g := by
  have reuse : RuleId.tagReuse.outcome? ctx (.modified (.fields old new f g) changes) =
      some .violation ↔ f.Rebound g := by
    simp [Field.rebinds_iff]
  have required : RuleId.requiredAdded.outcome? ctx (.modified (.fields old new f g) changes) =
      some .violation ↔ g.cardinality = .required ∧ f.cardinality ≠ .required := by
    simp [Cardinality.isRequired]
  have single : RuleId.repeatedToScalar.outcome? ctx (.modified (.fields old new f g) changes) =
      some .violation ↔
        ¬ f.Rebound g ∧ f.cardinality = .repeated ∧ g.cardinality ≠ .repeated := by
    simp only [RuleId.outcome?_repeatedToScalar, ← Field.rebinds_iff, Cardinality.isRepeated]
    by_cases rebound : f.rebinds g = true
    · simp [rebound]
    · cases f.cardinality <;> cases g.cardinality <;> simp [rebound]
  have type : RuleId.typeChange.outcome? ctx (.modified (.fields old new f g) changes) =
      some .violation ↔ ¬ f.Rebound g ∧ f.TypeBreaks ctx.superset g := by
    rw [RuleId.outcome?_typeChange, Field.typeOutcome?_eq_violation_iff strict]
  have value : RuleId.enumValueReuse.outcome? ctx (.modified (.fields old new f g) changes) ≠
      some .violation := by
    simp
  have context : ctx.superset = ⟨ctx.base, ctx.candidate, false⟩ := by
    rw [RuleContext.superset, strict]
  rw [breaking_iff, reuse, required, single, type, defaultValueChanged_iff, context, Field.Breaks,
    and_or_left, and_or_left]
  simp only [value, or_false]

theorem breaking_added_value {e : EnumType} {w : EnumValue} {before : ReservationStatus} :
    Breaking ctx (.added (.value e w) before) ↔ before.number = true := by
  simp [breaking_iff]

theorem breaking_modified_value {old new : EnumType} {v w : EnumValue} {changes : List Change} :
    Breaking ctx (.modified (.values old new v w) changes) ↔ v.name ≠ w.name := by
  simp [breaking_iff]

/-- Nothing that befalls a type as a whole is breaking. -/
theorem not_breaking_of_onType (onType : event.site.onType = true) : ¬ event.Breaking ctx := by
  rw [breaking_iff]
  rcases event with ⟨_ | _ | _ | _, _⟩ | ⟨_ | _ | _ | _, _⟩ | ⟨_ | _ | _ | _, _⟩ <;>
    simp_all [site, Entity.isType, Revision.new]

/-- Nor is the removal of a member. -/
theorem not_breaking_of_gone (gone : event.site.gone = true) : ¬ event.Breaking ctx := by
  rw [breaking_iff]
  rcases event with ⟨_ | _ | _ | _, _⟩ | ⟨_ | _ | _ | _, _⟩ | ⟨_ | _ | _ | _, _⟩ <;>
    simp_all [site]

end ChangeEvent

/-- A candidate that breaks its base: a new tag that was reserved or that is required, a tag that
    peers understand differently, a new enum number that was reserved, or one with a new name. -/
inductive Snapshot.Breaks (base candidate : Snapshot) : Prop
  | newTag {old new : MessageType} {g : Field} (before : .message old ∈ base.types)
      (after : .message new ∈ candidate.types) (same : old.name = new.name)
      (live : g ∈ new.fields) (fresh : ∀ f ∈ old.fields, f.number ≠ g.number)
      (breaks : old.reserved.coversNumber g.number = true ∨ g.cardinality = .required)
  | keptTag {old new : MessageType} {f g : Field} (before : .message old ∈ base.types)
      (after : .message new ∈ candidate.types) (same : old.name = new.name)
      (liveOld : f ∈ old.fields) (liveNew : g ∈ new.fields) (number : f.number = g.number)
      (breaks : f.Breaks base candidate g)
  | newValue {old new : EnumType} {w : EnumValue} (before : .enum old ∈ base.types)
      (after : .enum new ∈ candidate.types) (same : old.name = new.name)
      (live : w ∈ new.values) (fresh : ∀ v ∈ old.values, v.number ≠ w.number)
      (breaks : old.reserved.coversNumber w.number = true)
  | keptValue {old new : EnumType} {v w : EnumValue} (before : .enum old ∈ base.types)
      (after : .enum new ∈ candidate.types) (same : old.name = new.name)
      (liveOld : v ∈ old.values) (liveNew : w ∈ new.values) (number : v.number = w.number)
      (breaks : v.name ≠ w.name)

theorem FieldHappens.breaking_cases {old new : MessageType} {ctx : RuleContext}
    (strict : ctx.settings.allowNarrowing = false) {event : ChangeEvent}
    (happens : FieldHappens old new event) (breaking : event.Breaking ctx) :
    (∃ g ∈ new.fields, (∀ f ∈ old.fields, f.number ≠ g.number) ∧
      (old.reserved.coversNumber g.number = true ∨ g.cardinality = .required)) ∨
    ∃ f ∈ old.fields, ∃ g ∈ new.fields, f.number = g.number ∧
      f.Breaks ctx.base ctx.candidate g := by
  cases happens with
  | modified before after same =>
      exact .inr ⟨_, before, _, after, same,
        (ChangeEvent.breaking_modified_field strict).mp breaking⟩
  | added after fresh =>
      exact .inl ⟨_, after, fresh, ChangeEvent.breaking_added_field.mp breaking⟩
  | removed => exact absurd breaking (ChangeEvent.not_breaking_of_gone rfl)

theorem ValueHappens.breaking_cases {old new : EnumType} {ctx : RuleContext} {event : ChangeEvent}
    (happens : ValueHappens old new event) (breaking : event.Breaking ctx) :
    (∃ w ∈ new.values, (∀ v ∈ old.values, v.number ≠ w.number) ∧
      old.reserved.coversNumber w.number = true) ∨
    ∃ v ∈ old.values, ∃ w ∈ new.values, v.number = w.number ∧ v.name ≠ w.name := by
  cases happens with
  | modified before after same =>
      exact .inr ⟨_, before, _, after, same, ChangeEvent.breaking_modified_value.mp breaking⟩
  | added after fresh =>
      exact .inl ⟨_, after, fresh, ChangeEvent.breaking_added_value.mp breaking⟩
  | removed => exact absurd breaking (ChangeEvent.not_breaking_of_gone rfl)

/-- A candidate breaks its base exactly if something breaking happens. -/
theorem Snapshot.breaks_iff {base candidate : Snapshot} (settings : Settings)
    (strict : settings.allowNarrowing = false) :
    base.Breaks candidate ↔
      ∃ name event, Happens base candidate name event ∧
        event.Breaking ⟨base, candidate, settings⟩ := by
  constructor
  · intro breaks
    cases breaks with
    | newTag before after same live fresh breaks =>
        exact ⟨_, _, .field before after same (.added live fresh),
          ChangeEvent.breaking_added_field.mpr breaks⟩
    | keptTag before after same liveOld liveNew number breaks =>
        exact ⟨_, _, .field before after same (.modified liveOld liveNew number
          breaks.changes_ne_nil), (ChangeEvent.breaking_modified_field strict).mpr breaks⟩
    | newValue before after same live fresh breaks =>
        exact ⟨_, _, .value before after same (.added live fresh),
          ChangeEvent.breaking_added_value.mpr breaks⟩
    | keptValue before after same liveOld liveNew number breaks =>
        refine ⟨_, _, .value before after same (.modified liveOld liveNew number ?_),
          ChangeEvent.breaking_modified_value.mpr breaks⟩
        simp [EnumValue.changes, breaks]
  · rintro ⟨name, event, happens, breaking⟩
    cases happens with
    | @typeAdded t =>
        exact absurd breaking (ChangeEvent.not_breaking_of_onType (by cases t <;> rfl))
    | typeRemoved => exact absurd breaking (ChangeEvent.not_breaking_of_gone rfl)
    | message => exact absurd breaking (ChangeEvent.not_breaking_of_onType rfl)
    | enum => exact absurd breaking (ChangeEvent.not_breaking_of_onType rfl)
    | field before after same happens =>
        rcases happens.breaking_cases strict breaking with ⟨g, live, fresh, breaks⟩ |
          ⟨f, liveOld, g, liveNew, number, breaks⟩
        · exact .newTag before after same live fresh breaks
        · exact .keptTag before after same liveOld liveNew number breaks
    | value before after same happens =>
        rcases happens.breaking_cases breaking with ⟨w, live, fresh, breaks⟩ |
          ⟨v, liveOld, w, liveNew, number, breaks⟩
        · exact .newValue before after same live fresh breaks
        · exact .keptValue before after same liveOld liveNew number breaks

/-- Under the settings that nobody changed a run fails exactly if the candidate breaks its base, and
    passes otherwise. -/
theorem default_verdict_fails_iff_breaks {base candidate : Snapshot} (builtBase : base.IsBuilt)
    (builtCandidate : candidate.IsBuilt) :
    ∃ r, Registry.ofSettings {} = .ok r ∧ ∀ generatedAt,
      (r.check base candidate generatedAt).complete = true ∧
        ((r.check base candidate generatedAt).verdict = .fail ↔ base.Breaks candidate) ∧
        ((r.check base candidate generatedAt).verdict = .pass ↔ ¬ base.Breaks candidate) := by
  refine ⟨.default, Registry.ofSettings_default, ?_⟩
  intro generatedAt
  have breaks : (Registry.default.check base candidate generatedAt).findings.any
      Finding.isBreaking = true ↔ base.Breaks candidate := by
    rw [Registry.any_isBreaking_iff (Registry.nodup_rules Registry.ofSettings_default)
      builtBase.valid builtCandidate.valid rfl, Snapshot.breaks_iff {} rfl]
    have enabled (id : RuleId) : id ∈ Registry.default.rules := by cases id <;> decide
    simp only [enabled, true_and]
    exact Iff.rfl
  refine ⟨Registry.check_complete generatedAt, ?_, ?_⟩ <;>
    rw [Registry.check_verdict, ← breaks] <;>
    cases (Registry.default.check base candidate generatedAt).findings.any Finding.isBreaking <;>
    simp

/-- A message with a counter. -/
def counterWide : Snapshot where
  label := "wide"
  version := none
  types := [.message ⟨"acme.Counter", .proto3,
    [⟨1, "count", .scalar .int64, .singular, false, none⟩], .none⟩]

/-- The message with a smaller counter. -/
def counterNarrow : Snapshot where
  label := "narrow"
  version := none
  types := [.message ⟨"acme.Counter", .proto3,
    [⟨1, "count", .scalar .int32, .singular, false, none⟩], .none⟩]

theorem narrowed_counter_fails_and_widened_counter_passes :
    ∃ r, Registry.ofSettings {} = .ok r ∧
      (r.check counterWide counterNarrow .epoch).verdict = .fail ∧
      (r.check counterNarrow counterWide .epoch).verdict = .pass := by
  have builtWide : counterWide.IsBuilt := ⟨⟨"wide", none, counterWide.types⟩, by decide +kernel⟩
  have builtNarrow : counterNarrow.IsBuilt :=
    ⟨⟨"narrow", none, counterNarrow.types⟩, by decide +kernel⟩
  have narrowed : counterWide.Breaks counterNarrow :=
    .keptTag (List.mem_singleton.mpr rfl) (List.mem_singleton.mpr rfl) rfl
      (List.mem_singleton.mpr rfl) (List.mem_singleton.mpr rfl) rfl
      (.inr (.inr ⟨fun rebound => rebound.1 rfl, .inr (.inl ⟨by decide, .inr (.inl rfl)⟩)⟩))
  obtain ⟨r, ok, fails⟩ := default_verdict_fails_iff_breaks builtWide builtNarrow
  obtain rfl := Except.ok.inj (Registry.ofSettings_default.symm.trans ok)
  exact ⟨_, ok, (fails .epoch).2.1.mpr narrowed, by decide +kernel⟩

end SchemaEvolution
