import SchemaEvolution.Proofs.Change.Happening
import SchemaEvolution.Proofs.Wire.Extension
import SchemaEvolution.Rule.Registry

/-! # Rules beside more types

Three rules look beyond the definitions that an event tells of.  For what a field refers to, and
for a type that took the place of another one, they look up old names only.  A rule that suggests a
new name looks through all types of the candidate, and passes over those that the base has too,
the added ones among them.  So a rule says the same, word for word, of everything that happens to
the old types (`RuleId.check_of_extended`).
-/

namespace SchemaEvolution

section Lookups

variable {s t base base' candidate candidate' : Snapshot} {added : List TypeDef}

theorem FieldType.zeroText?_of_extended (extended : s.ExtendedBy added t) {type : FieldType}
    (avoids : type.Avoids added) : type.zeroText? t = type.zeroText? s := by
  cases type with
  | scalar kind => cases kind <;> rfl
  | message name | group name => rfl
  | enum name => rw [zeroText?, zeroText?, extended.enum?_eq (avoids name rfl)]

theorem Field.sameAssumedValue_of_extended (extendedBase : base.ExtendedBy added base')
    (extendedCandidate : candidate.ExtendedBy added candidate') {f g : Field}
    (avoidsF : f.type.Avoids added) (avoidsG : g.type.Avoids added) :
    f.sameAssumedValue base' candidate' g = f.sameAssumedValue base candidate g := by
  simp only [sameAssumedValue, assumedValue?,
    FieldType.zeroText?_of_extended extendedBase avoidsF,
    FieldType.zeroText?_of_extended extendedCandidate avoidsG]

end Lookups

section Snapshots

variable {base base' candidate candidate' : Snapshot} {added : List TypeDef}
  (extendedBase : base.ExtendedBy added base')
  (extendedCandidate : candidate.ExtendedBy added candidate') {settings : Settings}
include extendedBase extendedCandidate

namespace Rule

/-- A type that was added to both snapshots is not new, so it is not suggested. -/
theorem renameSuggestion_of_extended (name : String) (kind : TypeKind) :
    renameSuggestion ⟨base', candidate', settings⟩ name kind =
      renameSuggestion ⟨base, candidate, settings⟩ name kind := by
  simp only [renameSuggestion]
  congr 2
  rw [← extendedCandidate.filter_types, List.filterMap_filter]
  refine List.filterMap_congr fun u member => ?_
  by_cases spared : spares added u.name = true
  · rw [extendedBase.has_eq spared, if_pos spared]
  · rw [spares_iff] at spared
    push Not at spared
    obtain ⟨v, inside, same⟩ := spared
    have known : base'.has u.name = true := by
      rw [Snapshot.has, ← same, extendedBase.get?_added inside]
      rfl
    have taken : ¬ spares added u.name = true :=
      fun spared => spares_iff.mp spared v inside same
    rw [if_neg taken, known, Bool.or_true, if_pos rfl]

theorem removedType_of_extended {name : String} (spared : spares added name = true)
    (kind : TypeKind) :
    removedType ⟨base', candidate', settings⟩ name kind =
      removedType ⟨base, candidate, settings⟩ name kind := by
  rw [removedType, removedType, renameSuggestion_of_extended extendedBase extendedCandidate,
    extendedCandidate.get?_eq spared]

theorem judgeType_of_extended {t u : FieldType} (avoidsT : t.Avoids added)
    (avoidsU : u.Avoids added) (cardinalityChanged : Bool) (comparison : TypeComparison) :
    judgeType ⟨base', candidate', settings⟩ t u cardinalityChanged comparison =
      judgeType ⟨base, candidate, settings⟩ t u cardinalityChanged comparison := by
  cases comparison <;> simp only [judgeType, RuleContext.superset,
    Superset.references_of_extended extendedBase extendedCandidate avoidsT avoidsU]

variable {name : String} {event : ChangeEvent} (happens : Happens base candidate name event)
include happens

theorem typeChange_of_extended :
    typeChange ⟨base', candidate', settings⟩ event =
      typeChange ⟨base, candidate, settings⟩ event := by
  cases happens with
  | typeAdded | typeRemoved | message | enum => rfl
  | value _ _ _ happens => cases happens <;> rfl
  | field before after _ happens =>
      cases happens with
      | added | removed => rfl
      | modified liveOld liveNew =>
          simp only [typeChange, judgeType_of_extended extendedBase extendedCandidate
            (extendedBase.avoids before liveOld) (extendedCandidate.avoids after liveNew)]

theorem defaultValueChanged_of_extended :
    defaultValueChanged ⟨base', candidate', settings⟩ event =
      defaultValueChanged ⟨base, candidate, settings⟩ event := by
  cases happens with
  | typeAdded | typeRemoved | message | enum => rfl
  | value _ _ _ happens => cases happens <;> rfl
  | field before after _ happens =>
      cases happens with
      | added | removed => rfl
      | modified liveOld liveNew =>
          simp only [defaultValueChanged,
            Field.sameAssumedValue_of_extended extendedBase extendedCandidate
              (extendedBase.avoids before liveOld) (extendedCandidate.avoids after liveNew)]

theorem typeRemoved_of_extended :
    typeRemoved ⟨base', candidate', settings⟩ event =
      typeRemoved ⟨base, candidate, settings⟩ event := by
  cases happens with
  | message | enum => rfl
  | @typeAdded t => cases t <;> rfl
  | field _ _ _ happens => cases happens <;> rfl
  | value _ _ _ happens => cases happens <;> rfl
  | @typeRemoved t before =>
      have spared := extendedBase.spares_of_mem before
      cases t with
      | message m =>
          exact congrArg some (removedType_of_extended extendedBase extendedCandidate spared _)
      | enum e =>
          exact congrArg some (removedType_of_extended extendedBase extendedCandidate spared _)

end Rule

/-- A rule says the same of what happens to the old types, whatever types stand beside them. -/
theorem RuleId.check_of_extended {name : String} {event : ChangeEvent}
    (happens : Happens base candidate name event) (id : RuleId) :
    id.check ⟨base', candidate', settings⟩ event = id.check ⟨base, candidate, settings⟩ event := by
  cases id with
  | typeChange => exact Rule.typeChange_of_extended extendedBase extendedCandidate happens
  | defaultValueChanged =>
      exact congrArg Except.ok
        (Rule.defaultValueChanged_of_extended extendedBase extendedCandidate happens)
  | typeRemoved =>
      exact congrArg Except.ok
        (Rule.typeRemoved_of_extended extendedBase extendedCandidate happens)
  | tagReuse | requiredAdded | fieldCount | enumDefault | enumValueReuse | repeatedToScalar
  | unreservedRemoval | nameNotReserved | reservedNameReuse | reservationDropped => rfl

end Snapshots

end SchemaEvolution
