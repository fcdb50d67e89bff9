import SchemaEvolution.Proofs.Check.Independence
import SchemaEvolution.Proofs.Wire.Faults

/-! # What a run cannot judge

Of all rules only the comparison of types can fail, and only where a group stands on one side and
another type on the other.  Main statement: `only_groups_are_not_judged`.
-/

namespace SchemaEvolution

namespace Rule

variable {ctx : RuleContext} (validBase : ctx.base.Valid) (validCandidate : ctx.candidate.Valid)

include validBase validCandidate

/-- The comparison of the types of two live fields fails for a group or not at all. -/
theorem fault_of_typeChange {old new : MessageType} {f g : Field} {changes : List Change}
    (before : .message old ∈ ctx.base.types) (after : .message new ∈ ctx.candidate.types)
    (liveOld : f ∈ old.fields) (liveNew : g ∈ new.fields) {fault : WireFault}
    (failed : RuleId.typeChange.check ctx (.modified (.fields old new f g) changes) =
      .error fault) : fault.OfGroup ctx.base ctx.candidate := by
  simp only [RuleId.check, typeChange] at failed
  split at failed
  case isTrue => cases failed
  case isFalse =>
    rcases bind_eq_error_iff.mp failed with refused | ⟨comparison, -, failed⟩
    · obtain ⟨rfl, differ, group⟩ := FieldType.fault_of_compare refused
      exact ⟨⟨old, before, f, liveOld, rfl⟩, ⟨new, after, g, liveNew, rfl⟩, differ, group⟩
    rcases bind_eq_error_iff.mp failed with refused | ⟨verdict, -, said⟩
    · cases comparison with
      | structural =>
          rcases bind_eq_error_iff.mp refused with refused | ⟨stands, -, said⟩
          · exact Superset.fault_of_references (s := ctx.superset) validBase validCandidate before
              after liveOld liveNew refused
          · split at said <;> cases said
      | same | incompatible => cases refused
      | convertible conversion =>
          simp only [judgeType] at refused
          split at refused
          · cases refused
          · split at refused <;> cases refused
    · cases said

end Rule

/-- No rule but the comparison of types fails. -/
theorem RuleId.eq_typeChange_of_fault {ctx : RuleContext} {event : ChangeEvent} {id : RuleId}
    {fault : WireFault} (failed : id.check ctx event = .error fault) : id = .typeChange := by
  cases id with
  | typeChange => rfl
  | _ => cases failed

/-- Whatever a rule cannot judge of what happens, a group keeps it from judging. -/
theorem Happens.ofGroup_of_fault {ctx : RuleContext} (validBase : ctx.base.Valid)
    (validCandidate : ctx.candidate.Valid) {name : String} {event : ChangeEvent} {id : RuleId}
    {fault : WireFault} (happens : Happens ctx.base ctx.candidate name event)
    (failed : id.check ctx event = .error fault) : fault.OfGroup ctx.base ctx.candidate := by
  obtain rfl := RuleId.eq_typeChange_of_fault failed
  cases happens with
  | typeAdded | typeRemoved | message | enum => cases failed
  | value before after same happens => cases happens <;> cases failed
  | field before after same happens =>
      cases happens with
      | modified liveOld liveNew number changed =>
          exact Rule.fault_of_typeChange validBase validCandidate before after liveOld liveNew
            failed
      | added | removed => cases failed

namespace Registry

variable {r : Registry} {base candidate : Snapshot}

/-- A report says that something could not be judged only if some rule failed. -/
theorem exists_fault_of_reportsFault (distinct : r.rules.Nodup) (validBase : base.Valid)
    (validCandidate : candidate.Valid) {generatedAt : Timestamp} {f : Finding}
    (reported : f ∈ (r.check base candidate generatedAt).findings)
    (blames : ReportsFault f.message) :
    ∃ name event, Happens base candidate name event ∧ ∃ (id : RuleId) (fault : WireFault),
      id.check (r.context base candidate) event = .error fault := by
  have perm := check_findings_perm distinct validBase validCandidate generatedAt
  obtain ⟨raw, found, rfl⟩ := List.mem_map.mp (perm.mem_iff.mp reported)
  obtain ⟨name, event, id, happens, -, found⟩ :=
    (mem_rawFindings_iff validBase validCandidate).mp found
  have message : ((raw.grade r.settings.treatAdvisoryAsError).annotate base candidate).message =
      raw.message :=
    Finding.message_eq_of_remark (by simp)
  rw [message, reportsFault_iff (happens.isQualified validBase validCandidate) found] at blames
  obtain ⟨fault, failed⟩ := blames
  exact ⟨name, event, happens, id, fault, failed⟩

end Registry

/-- Under settings that make sense a run never misses a type.  Only the comparison of types fails,
    and it fails for a declared group beside another type; where nothing is a group no rule fails
    and no finding says that something could not be judged. -/
theorem only_groups_are_not_judged {base candidate : Snapshot} (builtBase : base.IsBuilt)
    (builtCandidate : candidate.IsBuilt) {settings : Settings}
    (valid : settings.validate = .ok ()) :
    ∃ r, Registry.ofSettings settings = .ok r ∧
      (∀ pair ∈ TypePair.all base candidate, ∀ event ∈ (TypeDiff.of pair).events,
        ∀ (id : RuleId) (fault : WireFault),
        id.check (r.context base candidate) event = .error fault →
          id = .typeChange ∧ (∀ name, fault ≠ .missingType name) ∧
            fault.OfGroup base candidate) ∧
      (base.Groupless → candidate.Groupless →
        (∀ pair ∈ TypePair.all base candidate, ∀ event ∈ (TypeDiff.of pair).events,
          ∀ id : RuleId, ∃ answer, id.check (r.context base candidate) event = .ok answer) ∧
        ∀ generatedAt, ∀ f ∈ (r.check base candidate generatedAt).findings,
          ¬ ReportsFault f.message) := by
  obtain ⟨r, ok⟩ := Registry.exists_ofSettings valid
  have ofGroup {name : String} {event : ChangeEvent} (happens : Happens base candidate name event)
      {id : RuleId} {fault : WireFault}
      (failed : id.check (r.context base candidate) event = .error fault) :
      fault.OfGroup base candidate :=
    Happens.ofGroup_of_fault builtBase.valid builtCandidate.valid happens failed
  have emitted {pair : TypePair} (member : pair ∈ TypePair.all base candidate)
      {event : ChangeEvent} (listed : event ∈ (TypeDiff.of pair).events) :
      Happens base candidate pair.name event :=
    (Registry.happens_iff_mem_events builtBase.valid builtCandidate.valid).mpr
      ⟨pair, member, rfl, listed⟩
  refine ⟨r, ok, ?_, fun plainBase plainCandidate => ⟨?_, ?_⟩⟩
  · intro pair member event listed id fault failed
    have group := ofGroup (emitted member listed) failed
    refine ⟨RuleId.eq_typeChange_of_fault failed, fun name missing => ?_, group⟩
    rw [missing] at group
    cases group
  · intro pair member event listed id
    cases answered : id.check (r.context base candidate) event with
    | ok answer => exact ⟨answer, rfl⟩
    | error fault =>
        exact ((ofGroup (emitted member listed) answered).not_groupless plainBase
          plainCandidate).elim
  · intro generatedAt f reported blames
    obtain ⟨name, event, happens, id, fault, failed⟩ :=
      Registry.exists_fault_of_reportsFault (Registry.nodup_rules ok) builtBase.valid
        builtCandidate.valid reported blames
    exact (ofGroup happens failed).not_groupless plainBase plainCandidate

/-- A sheet whose head is of a type. -/
def sheetTypes (head : FieldType) : List TypeDef := [
  .message ⟨"acme.Head", .proto2, [], .none⟩,
  .message ⟨"acme.Sheet", .proto2, [{ number := 1, name := "head", type := head }], .none⟩]

def sheetGrouped : Snapshot := ⟨"grouped", none, sheetTypes (.group "acme.Head")⟩

def sheetNested : Snapshot := ⟨"nested", none, sheetTypes (.message "acme.Head")⟩

def sheetFlat : Snapshot := ⟨"flat", none, sheetTypes (.scalar .string)⟩

/-- A group cannot be judged beside a message, and a message can be judged beside a text. -/
theorem grouped_sheet_is_not_judged :
    ∃ r, Registry.ofSettings {} = .ok r ∧
      (∃ f ∈ (r.check sheetGrouped sheetNested .epoch).findings, f.rule = .typeChange ∧ f.message =
        "unable to evaluate: no compatibility entry for group acme.Head -> message acme.Head") ∧
      (∀ pair ∈ TypePair.all sheetGrouped sheetNested, ∀ event ∈ (TypeDiff.of pair).events,
        ∀ (id : RuleId) (fault : WireFault),
          id.check (r.context sheetGrouped sheetNested) event = .error fault → id = .typeChange) ∧
      ∀ f ∈ (r.check sheetNested sheetFlat .epoch).findings, ¬ ReportsFault f.message := by
  have builtGrouped : sheetGrouped.IsBuilt :=
    ⟨⟨"grouped", none, sheetGrouped.types⟩, by decide +kernel⟩
  have builtNested : sheetNested.IsBuilt :=
    ⟨⟨"nested", none, sheetNested.types⟩, by decide +kernel⟩
  have builtFlat : sheetFlat.IsBuilt := ⟨⟨"flat", none, sheetFlat.types⟩, by decide +kernel⟩
  have valid : ({} : Settings).validate = .ok () := by rfl
  obtain ⟨r, ok, onlyTypes, -⟩ := only_groups_are_not_judged builtGrouped builtNested valid
  obtain ⟨s, okToo, -, judged⟩ := only_groups_are_not_judged builtNested builtFlat valid
  obtain rfl := Except.ok.inj (Registry.ofSettings_default.symm.trans ok)
  obtain rfl := Except.ok.inj (Registry.ofSettings_default.symm.trans okToo)
  have groupless {head : FieldType} (plain : head.isGroup = false) (label : String) :
      Snapshot.Groupless ⟨label, none, sheetTypes head⟩ := by
    intro m member f live
    simp only [sheetTypes, List.mem_cons, TypeDef.message.injEq, List.not_mem_nil, or_false]
      at member
    rcases member with rfl | rfl
    · cases live
    · rw [List.mem_singleton.mp live]
      exact plain
  refine ⟨.default, ok, by decide +kernel, ?_, (judged (groupless rfl _) (groupless rfl _)).2 .epoch⟩
  exact fun pair member event listed id fault failed =>
    (onlyTypes pair member event listed id fault failed).1

end SchemaEvolution
