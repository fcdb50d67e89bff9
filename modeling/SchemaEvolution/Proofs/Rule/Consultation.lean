import SchemaEvolution.Proofs.Rule.Outcome

/-! # What rules consult

Beside an event and the two snapshots a rule reads one setting at most: how many fields a message
may have, or whether narrowing is tolerated.  Which rules run, how they are graded and whether
findings are raised is nothing that a rule could see (`RuleId.check_eq_of_agrees`).
-/

namespace SchemaEvolution

/-- Contexts in which every rule reads the same, whether narrowing is tolerated aside. -/
structure RuleContext.Agrees (ctx other : RuleContext) : Prop where
  base : ctx.base = other.base
  candidate : ctx.candidate = other.candidate
  threshold : ctx.settings.fieldCountThreshold = other.settings.fieldCountThreshold

namespace RuleContext.Agrees

variable {ctx other : RuleContext} (agrees : ctx.Agrees other)
include agrees

theorem grown_eq (before : Nat) (m : MessageType) :
    Rule.grown ctx before m = Rule.grown other before m := by
  rw [Rule.grown, Rule.grown, agrees.threshold]

theorem fieldCount_eq (event : ChangeEvent) :
    Rule.fieldCount ctx event = Rule.fieldCount other event := by
  unfold Rule.fieldCount
  split <;> first | rfl | exact agrees.grown_eq _ _

theorem defaultValueChanged_eq (event : ChangeEvent) :
    Rule.defaultValueChanged ctx event = Rule.defaultValueChanged other event := by
  unfold Rule.defaultValueChanged
  rw [agrees.base, agrees.candidate]

theorem removedType_eq (name : String) (kind : TypeKind) :
    Rule.removedType ctx name kind = Rule.removedType other name kind := by
  rw [Rule.removedType, Rule.removedType, Rule.renameSuggestion, Rule.renameSuggestion,
    agrees.base, agrees.candidate]

theorem typeRemoved_eq (event : ChangeEvent) :
    Rule.typeRemoved ctx event = Rule.typeRemoved other event := by
  unfold Rule.typeRemoved
  split <;> first | rfl | rw [agrees.removedType_eq]

theorem typeChange_eq (tolerance : ctx.settings.allowNarrowing = other.settings.allowNarrowing)
    (event : ChangeEvent) : Rule.typeChange ctx event = Rule.typeChange other event := by
  have walks : ctx.superset = other.superset := by
    rw [RuleContext.superset, RuleContext.superset, agrees.base, agrees.candidate, tolerance]
  have judged : Rule.judgeType ctx = Rule.judgeType other := by
    funext old new changed comparison
    cases comparison <;> simp only [Rule.judgeType, walks, tolerance]
  unfold Rule.typeChange
  rw [judged]

end RuleContext.Agrees

/-- Only the comparison of types asks whether narrowing is tolerated. -/
theorem RuleId.check_eq_of_agrees {ctx other : RuleContext} (agrees : ctx.Agrees other)
    {id : RuleId} (tolerance : id = .typeChange →
      ctx.settings.allowNarrowing = other.settings.allowNarrowing) (event : ChangeEvent) :
    id.check ctx event = id.check other event := by
  cases id with
  | typeChange => exact agrees.typeChange_eq (tolerance rfl) event
  | fieldCount => exact congrArg Except.ok (agrees.fieldCount_eq event)
  | defaultValueChanged => exact congrArg Except.ok (agrees.defaultValueChanged_eq event)
  | typeRemoved => exact congrArg Except.ok (agrees.typeRemoved_eq event)
  | tagReuse | requiredAdded | enumDefault | enumValueReuse | repeatedToScalar | unreservedRemoval
  | nameNotReserved | reservedNameReuse | reservationDropped => rfl

end SchemaEvolution
