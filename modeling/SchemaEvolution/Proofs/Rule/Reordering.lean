import SchemaEvolution.Proofs.Change.Reordering
import SchemaEvolution.Proofs.Wire.Refusal
import SchemaEvolution.Rule.Registry

/-! # Rules on reordered definitions

A rule says the same about an event, word for word, in whatever order the definitions declare what
they declare (`RuleId.check_of_reordered`).  The one exception is the comparison of types, which may
walk over messages; it needs the walk to end alike.
-/

namespace SchemaEvolution

/-- The same settings, over snapshots that differ in their order at most. -/
structure RuleContext.Reordered (ctx other : RuleContext) : Prop where
  base : ctx.base.Reordered other.base
  candidate : ctx.candidate.Reordered other.candidate
  settings : ctx.settings = other.settings

theorem Field.sameAssumedValue_of_reordered {base base' candidate candidate' : Snapshot}
    (reorderedBase : base.Reordered base') (reorderedCandidate : candidate.Reordered candidate')
    (f g : Field) :
    f.sameAssumedValue base candidate g = f.sameAssumedValue base' candidate' g := by
  have zero {s t : Snapshot} (reordered : s.Reordered t) (type : FieldType) :
      type.zeroText? s = type.zeroText? t := by
    cases type with
    | scalar kind => cases kind <;> rfl
    | message name | group name => rfl
    | enum name =>
        have same := reordered.rel_enum? name
        rw [FieldType.zeroText?, FieldType.zeroText?]
        generalize s.enum? name = e, t.enum? name = k at same
        cases same with
        | some same => simp only [Option.bind_some, same.values]
        | none => rfl
  simp only [sameAssumedValue, assumedValue?, zero reorderedBase, zero reorderedCandidate]

namespace Rule

theorem dropped_of_reordered {r q : Reservations} (same : r.Reordered q) (changes : List Change) :
    dropped r changes = dropped q changes := by
  simp only [dropped, same.coversRange_eq]

section Context

variable {ctx ctx' : RuleContext} (contexts : ctx.Reordered ctx')
include contexts

theorem grown_of_reordered {m n : MessageType} (same : m.Reordered n) (before : Nat) :
    grown ctx before m = grown ctx' before n := by
  simp only [grown, contexts.settings, same.name, same.fields.length_eq]

theorem renameSuggestion_of_reordered (name : String) (kind : TypeKind) :
    renameSuggestion ctx name kind = renameSuggestion ctx' name kind := by
  simp only [renameSuggestion]
  congr 2
  refine filterMap_eq_of_forall₂ contexts.candidate.types ?_
  intro t u same
  rw [same.kind_eq, same.name_eq, contexts.base.has_eq]

theorem removedType_of_reordered (name : String) (kind : TypeKind) :
    removedType ctx name kind = removedType ctx' name kind := by
  have same := contexts.candidate.rel_get? name
  rw [removedType, removedType, renameSuggestion_of_reordered contexts]
  generalize ctx.candidate.get? name = t, ctx'.candidate.get? name = u at same
  cases same with
  | some same => simp only [same.kind_eq]
  | none => rfl

end Context

end Rule

namespace RuleId

variable {ctx ctx' : RuleContext} {d e : ChangeEvent}

/-- Two fields whose types are compared alike are judged alike. -/
theorem typeChange_of_reordered (contexts : ctx.Reordered ctx') (same : d.Reordered e)
    (walks : ∀ old new f g changes, d = .modified (.fields old new f g) changes →
      f.type ≠ g.type → (ctx.superset.references [] f.type g.type).1 =
        (ctx'.superset.references [] f.type g.type).1) :
    Rule.typeChange ctx d = Rule.typeChange ctx' e := by
  cases same with
  | added | removed => rfl
  | modified same =>
      cases same with
      | messages | enums | values => rfl
      | @fields old _ new _ f g =>
          by_cases kept : f.type = g.type
          · simp only [Rule.typeChange, kept, decide_true, Bool.true_or, ↓reduceIte]
          have judged (changed : Bool) (comparison : TypeComparison) :
              Rule.judgeType ctx f.type g.type changed comparison =
                Rule.judgeType ctx' f.type g.type changed comparison := by
            cases comparison <;>
              simp only [Rule.judgeType, contexts.settings, walks old new f g _ rfl kept]
          simp only [Rule.typeChange, judged]

/-- A rule says the same about reordered definitions, if what it compares is compared alike. -/
theorem check_of_reordered (contexts : ctx.Reordered ctx') (same : d.Reordered e) (id : RuleId)
    (walks : id = .typeChange → ∀ old new f g changes,
      d = .modified (.fields old new f g) changes → f.type ≠ g.type →
        (ctx.superset.references [] f.type g.type).1 =
          (ctx'.superset.references [] f.type g.type).1) :
    id.check ctx d = id.check ctx' e := by
  cases id with
  | typeChange => exact typeChange_of_reordered contexts same (walks rfl)
  | tagReuse | requiredAdded | enumValueReuse | repeatedToScalar =>
      rcases same with ⟨⟨⟩⟩ | ⟨⟨⟩⟩ | ⟨⟨⟩⟩ <;> rfl
  | unreservedRemoval | nameNotReserved =>
      cases same with
      | added | modified => rfl
      | removed same =>
          simp only [check, Rule.unreservedRemoval, Rule.nameNotReserved, same.number?_eq,
            same.sort_eq, same.name_eq, same.isType_eq]
  | reservedNameReuse =>
      cases same with
      | removed => rfl
      | added same => simp only [check, Rule.reservedNameReuse, same.isType_eq, same.name_eq]
      | modified same =>
          simp only [check, Rule.reservedNameReuse, same.new.isType_eq, same.new.name_eq]
  | fieldCount =>
      rcases same with ⟨same | _ | _ | _⟩ | _ | ⟨⟨old, new⟩ | _ | _ | _⟩
      case added.message =>
        simp only [check, Rule.fieldCount, Rule.grown_of_reordered contexts same]
      case modified.messages =>
        simp only [check, Rule.fieldCount, Rule.grown_of_reordered contexts new,
          old.fields.length_eq]
      all_goals rfl
  | enumDefault =>
      rcases same with ⟨_ | same | _ | _⟩ | _ | ⟨_ | ⟨old, new⟩ | _ | _⟩
      case added.enum => simp only [check, Rule.enumDefault, same.hasZero_eq, same.name]
      case modified.enums =>
        simp only [check, Rule.enumDefault, old.hasZero_eq, new.hasZero_eq, new.name,
          new.reserved.coversNumber_eq]
      all_goals rfl
  | defaultValueChanged =>
      rcases same with _ | _ | ⟨_ | _ | _ | _⟩
      case modified.fields =>
        simp only [check, Rule.defaultValueChanged,
          Field.sameAssumedValue_of_reordered contexts.base contexts.candidate]
      all_goals rfl
  | reservationDropped =>
      rcases same with _ | _ | ⟨⟨old, new⟩ | ⟨old, new⟩ | _ | _⟩
      case modified.messages | modified.enums =>
        simp only [check, Rule.reservationDropped, Rule.dropped_of_reordered new.reserved, new.name]
      all_goals rfl
  | typeRemoved =>
      rcases same with _ | ⟨same | same | _ | _⟩ | _
      case removed.message | removed.enum =>
        simp only [check, Rule.typeRemoved, Rule.removedType_of_reordered contexts, same.name]
      all_goals rfl

end RuleId

end SchemaEvolution
