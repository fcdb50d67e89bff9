import SchemaEvolution.Proofs.Check.Occurrence

/-! # Enums without a zero value

Readers fall back on the value numbered 0.  Two rules watch over it: one looks at the enum, and the
other one at the value that is removed.  Which of them speaks depends on whether the number is
reserved, and neither the reservations nor their ranges leave a gap between the two.  Main
statement: `lost_zero_is_reported_once`.
-/

namespace SchemaEvolution

theorem EnumType.hasZero_iff {e : EnumType} : e.hasZero = true ↔ ∃ v ∈ e.values, v.number = 0 := by
  simp [hasZero, value?]

theorem EnumType.hasZero_eq_false_iff {e : EnumType} :
    e.hasZero = false ↔ ∀ v ∈ e.values, v.number ≠ 0 := by
  simp [hasZero, value?]

/-- An enum of the candidate without a value numbered 0, where the base has no enum of that name or
    one with such a value. -/
structure Snapshot.LosesZero (base candidate : Snapshot) (e : EnumType) : Prop where
  after : .enum e ∈ candidate.types
  lacks : ∀ v ∈ e.values, v.number ≠ 0
  fresh : ∀ old, .enum old ∈ base.types → old.name = e.name → ∃ v ∈ old.values, v.number = 0

/-- Whether a path is that of the value numbered 0 of the enum with some name. -/
def Snapshot.ZeroAt (s : Snapshot) (name path : String) : Prop :=
  ∃ e v, .enum e ∈ s.types ∧ e.name = name ∧ v ∈ e.values ∧ v.number = 0 ∧
    path = s!"{e.name}.{v.name}"

namespace Snapshot

variable {s base candidate : Snapshot}

/-- An enum has one zero value at most. -/
theorem ZeroAt.path_eq {name path : String} (found : s.ZeroAt name path) (valid : s.Valid)
    {e : EnumType} (member : .enum e ∈ s.types) (named : e.name = name) {v : EnumValue}
    (live : v ∈ e.values) (zero : v.number = 0) : path = s!"{e.name}.{v.name}" := by
  obtain ⟨d, w, memberD, namedD, liveW, zeroW, rfl⟩ := found
  obtain rfl := TypeDef.enum.inj (valid.eq_of_name memberD member (namedD.trans named.symm))
  have number : Member.number w = Member.number v := zeroW.trans zero.symm
  rw [(valid.enums d member).sound.eq_of_number liveW live number]

namespace LosesZero

variable {e : EnumType} (loses : base.LosesZero candidate e)
include loses

theorem hasZero_eq_false : e.hasZero = false := EnumType.hasZero_eq_false_iff.mpr loses.lacks

/-- A zero value that is lost is a value that is removed, and the enum changes with it. -/
theorem exists_removed {old : EnumType} (before : .enum old ∈ base.types)
    (same : old.name = e.name) :
    ∃ v ∈ old.values, v.number = 0 ∧
      Happens base candidate old.name (.removed (.value old v) (.of e.reserved 0 v.name)) ∧
      Happens base candidate old.name (.modified (.enums old e) (old.changes e)) := by
  obtain ⟨v, live, zero⟩ := loses.fresh old before same
  have removed : ValueHappens old e (.removed (.value old v) (.of e.reserved v.number v.name)) :=
    .removed live fun w member number => loses.lacks w member (number.trans zero)
  rw [zero] at removed
  exact ⟨v, live, zero, .value before loses.after same removed,
    .enum before loses.after same (.inr ⟨_, removed⟩)⟩

end LosesZero

end Snapshot

/-- How a report tells that an enum has lost its zero value, or never had one: either on the enum,
    or on the value that the base has, and never on both. -/
def Report.TellsLostZero (report : Report) (base : Snapshot) (e : EnumType) : Prop :=
  (report.occurrences .enumDefault e.name = 1 ∧
    ∀ path, base.ZeroAt e.name path → report.occurrences .unreservedRemoval path = 0) ∨
  (report.occurrences .enumDefault e.name = 0 ∧
    ∃ path, base.ZeroAt e.name path ∧ report.occurrences .unreservedRemoval path = 1)

namespace Registry

variable {r : Registry} {base candidate : Snapshot} (distinct : r.rules.Nodup)
  (validBase : base.Valid) (validCandidate : candidate.Valid)

include distinct validBase validCandidate

section Lost

variable (enabled : ∀ id, id ∈ r.rules) {e : EnumType} (loses : base.LosesZero candidate e)
  (generatedAt : Timestamp)

include enabled loses

/-- An enum that is new to the base is reported itself. -/
theorem tellsLostZero_of_added
    (added : ∀ old, .enum old ∈ base.types → old.name ≠ e.name) :
    (r.check base candidate generatedAt).TellsLostZero base e := by
  have fresh : ∀ u ∈ base.types, u.name = (TypeDef.enum e).name → u.kind ≠ .enum := by
    intro u member named kind
    cases u with
    | message => cases kind
    | enum old => exact added old member named
  have looks : RuleId.enumDefault.site = (ChangeEvent.added (.ofType (.enum e)) .clear).site := rfl
  have once := occurrences_of_happens distinct validBase validCandidate
    (.typeAdded loses.after fresh) looks (enabled _) generatedAt
  refine .inl ⟨once.trans ?_, ?_⟩
  · simp [Entity.ofType, loses.hasZero_eq_false]
  · rintro path ⟨old, -, before, named, -⟩
    exact absurd named (added old before)

/-- An enum whose zero value is removed is reported itself if the number is reserved, and its value
    is reported if not. -/
theorem tellsLostZero_of_removed {old : EnumType} (before : .enum old ∈ base.types)
    (same : old.name = e.name) :
    (r.check base candidate generatedAt).TellsLostZero base e := by
  obtain ⟨v, live, zero, removed, modified⟩ := loses.exists_removed before same
  have had : old.hasZero = true := EnumType.hasZero_iff.mpr ⟨v, live, zero⟩
  have looksEnum : RuleId.enumDefault.site =
      (ChangeEvent.modified (.enums old e) (old.changes e)).site := rfl
  have looksValue : RuleId.unreservedRemoval.site =
      (ChangeEvent.removed (.value old v) (.of e.reserved 0 v.name)).site := rfl
  have onEnum := occurrences_of_happens distinct validBase validCandidate modified looksEnum
    (enabled _) generatedAt
  have onValue := occurrences_of_happens distinct validBase validCandidate removed looksValue
    (enabled _) generatedAt
  -- the guard of either rule is the negation of the other one's
  cases reserved : e.reserved.coversNumber 0 with
  | true =>
      refine .inl ⟨onEnum.trans ?_, ?_⟩
      · simp [had, loses.hasZero_eq_false, reserved]
      · intro path found
        rw [found.path_eq validBase before same live zero]
        refine onValue.trans ?_
        simp [ReservationStatus.of, reserved]
  | false =>
      refine .inr ⟨onEnum.trans ?_, _, ⟨old, v, before, same, live, zero, rfl⟩, onValue.trans ?_⟩
      · simp [reserved]
      · simp [ReservationStatus.of, reserved]

end Lost

/-- An enum is reported for want of a zero value only if it has none, and no enum of its name in the
    base has none. -/
theorem losesZero_of_mem_findings {generatedAt : Timestamp} {f : Finding}
    (reported : f ∈ (r.check base candidate generatedAt).findings) (rule : f.rule = .enumDefault) :
    ∃ e, base.LosesZero candidate e ∧ f.path = e.name ∧ f.typeName = e.name := by
  obtain ⟨event, raw, happens, here, found, -⟩ :=
    exists_findingOf_of_mem_findings distinct validBase validCandidate reported
  generalize owner : f.typeName = name at happens found ⊢
  have fires := r.isSome_findingOf (r.context base candidate) name event f.rule
  rw [found, rule, RuleId.outcome?_enumDefault, Option.isSome_some] at fires
  cases happens with
  | typeRemoved => cases fires
  | message => cases fires
  | field _ _ _ happens => cases happens <;> cases fires
  | value _ _ _ happens => cases happens <;> cases fires
  | @typeAdded t after fresh =>
      cases t with
      | message => cases fires
      | enum e =>
          simp only [Entity.ofType] at fires
          have lacks : e.hasZero = false := by
            by_contra has
            simp [has] at fires
          refine ⟨e, ⟨after, EnumType.hasZero_eq_false_iff.mp lacks, ?_⟩, here.symm, rfl⟩
          intro old before named
          exact absurd rfl (fresh (.enum old) before named)
  | @enum old new before after same =>
      have lost : (old.hasZero && !new.hasZero && new.reserved.coversNumber 0) = true := by
        by_contra kept
        simp [kept] at fires
      rw [Bool.and_eq_true, Bool.and_eq_true, Bool.not_eq_true'] at lost
      obtain ⟨⟨had, lacks⟩, -⟩ := lost
      refine ⟨new, ⟨after, EnumType.hasZero_eq_false_iff.mp lacks, ?_⟩, here.symm, same⟩
      intro other beforeOther named
      obtain rfl := TypeDef.enum.inj
        (validBase.eq_of_name beforeOther before (named.trans same.symm))
      exact EnumType.hasZero_iff.mp had

end Registry

/-- An enum of the candidate that comes to be without a zero value is reported once by a run of all
    rules: on the enum, or on the zero value that was removed from it and left free.  Nothing else
    is reported for want of a zero value. -/
theorem lost_zero_is_reported_once {base candidate : Snapshot} {settings : Settings} {r : Registry}
    (builtBase : base.IsBuilt) (builtCandidate : candidate.IsBuilt)
    (ok : Registry.ofSettings settings = .ok r) (allRules : r.rules = RuleId.all)
    (generatedAt : Timestamp) :
    (r.check base candidate generatedAt).complete = true ∧
      (∀ e, base.LosesZero candidate e →
        (r.check base candidate generatedAt).TellsLostZero base e) ∧
      ∀ f ∈ (r.check base candidate generatedAt).findings, f.rule = .enumDefault →
        ∃ e, base.LosesZero candidate e ∧ f.path = e.name ∧ f.typeName = e.name := by
  have distinct := Registry.nodup_rules ok
  have enabled (id : RuleId) : id ∈ r.rules := by
    rw [allRules]
    exact id.mem_all
  refine ⟨Registry.check_complete generatedAt, ?_, ?_⟩
  · intro e loses
    by_cases had : ∃ old, .enum old ∈ base.types ∧ old.name = e.name
    · obtain ⟨old, before, same⟩ := had
      exact Registry.tellsLostZero_of_removed distinct builtBase.valid builtCandidate.valid enabled
        loses generatedAt before same
    · simp only [not_exists, not_and] at had
      exact Registry.tellsLostZero_of_added distinct builtBase.valid builtCandidate.valid enabled
        loses generatedAt had
  · intro f reported rule
    exact Registry.losesZero_of_mem_findings distinct builtBase.valid builtCandidate.valid reported
      rule

/-- Two enums with a zero value, and a message. -/
def paletteFirst : Snapshot where
  label := "first"
  version := none
  types := [.enum ⟨"acme.Color", .proto2, [⟨0, "NONE"⟩, ⟨1, "RED"⟩], .none⟩,
    .enum ⟨"acme.Mode", .proto2, [⟨0, "OFF"⟩, ⟨1, "ON"⟩], .none⟩,
    .message ⟨"acme.Size", .proto2, [], .none⟩]

/-- The enums without their zero values, of which one is reserved among others, and an enum in place
    of the message. -/
def paletteSecond : Snapshot where
  label := "second"
  version := none
  types := [.enum ⟨"acme.Color", .proto2, [⟨1, "RED"⟩], ⟨[⟨-5, 0⟩], .ofList ["NONE"]⟩⟩,
    .enum ⟨"acme.Mode", .proto2, [⟨1, "ON"⟩], .none⟩,
    .enum ⟨"acme.Size", .proto2, [⟨1, "SMALL"⟩], .none⟩]

/-- A zero value that is reserved, one that is left free, and one that there never was. -/
theorem palette_loses_each_zero_once :
    ∃ r, Registry.ofSettings {} = .ok r ∧
      (r.check paletteFirst paletteSecond .epoch).TellsLostZero paletteFirst
        ⟨"acme.Color", .proto2, [⟨1, "RED"⟩], ⟨[⟨-5, 0⟩], .ofList ["NONE"]⟩⟩ ∧
      (r.check paletteFirst paletteSecond .epoch).TellsLostZero paletteFirst
        ⟨"acme.Mode", .proto2, [⟨1, "ON"⟩], .none⟩ ∧
      (r.check paletteFirst paletteSecond .epoch).TellsLostZero paletteFirst
        ⟨"acme.Size", .proto2, [⟨1, "SMALL"⟩], .none⟩ := by
  have builtBase : paletteFirst.IsBuilt :=
    ⟨⟨"first", none, paletteFirst.types⟩, by decide +kernel⟩
  have builtCandidate : paletteSecond.IsBuilt :=
    ⟨⟨"second", none, paletteSecond.types⟩, by decide +kernel⟩
  obtain ⟨-, tells, -⟩ := lost_zero_is_reported_once builtBase builtCandidate
    Registry.ofSettings_default rfl .epoch
  refine ⟨.default, Registry.ofSettings_default, tells _ ?_, tells _ ?_, tells _ ?_⟩
  · exact ⟨by simp [paletteSecond], by decide, by simp [paletteFirst]⟩
  · exact ⟨by simp [paletteSecond], by decide, by simp [paletteFirst]⟩
  · exact ⟨by simp [paletteSecond], by decide, by simp [paletteFirst]⟩

end SchemaEvolution
