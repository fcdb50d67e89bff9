import Mathlib
import SchemaEvolution.Rule.Registry

/-! # Outcomes of rules

How a rule fires on an event, apart from what it says.  `outcome?` is the one view of a rule that
severities depend on, and there is one lemma for each rule, so that later proofs open no rule
body.  `site_eq_of_fires` reads off them that a rule fires at one kind of site only: on a type
or on a member, gone or still there.
-/

namespace SchemaEvolution

namespace Observation

@[simp] theorem outcome_violation (message : String) :
    (violation message).outcome = .violation := rfl

@[simp] theorem outcome_between (o : Observation) (old new : String) :
    (o.between old new).outcome = o.outcome := rfl

@[simp] theorem outcome_was (o : Observation) (old : String) : (o.was old).outcome = o.outcome :=
  rfl

@[simp] theorem outcome_now (o : Observation) (new : String) : (o.now new).outcome = o.outcome :=
  rfl

end Observation

/-- How the comparison of types fires on two fields under one tag. -/
def Field.typeOutcome? (ctx : RuleContext) (f g : Field) : Option Outcome :=
  if f.type = g.type || f.rebinds g then none
  else
    match f.type.compare g.type with
    | .error _ => some .unevaluated
    | .ok .same => none
    | .ok (.convertible conversion) =>
      if f.cardinality ≠ g.cardinality then some .violation
      else if conversion = .narrowing then
        some (if ctx.settings.allowNarrowing then .relaxed else .violation)
      else none
    | .ok .structural =>
      match (ctx.superset.references [] f.type g.type).1 with
      | .error _ => some .unevaluated
      | .ok true => if f.cardinality ≠ g.cardinality then some .violation else none
      | .ok false => some .violation
    | .ok .incompatible => some .violation

namespace RuleId

/-- How a rule fires on an event, if it does. -/
def outcome? (ctx : RuleContext) (event : ChangeEvent) (id : RuleId) : Option Outcome :=
  match id.check ctx event with
  | .ok answer => answer.map Observation.outcome
  | .error _ => some .unevaluated

variable {ctx : RuleContext} {event : ChangeEvent}

@[simp] theorem outcome?_tagReuse : outcome? ctx event tagReuse =
    match event with
    | .added (.field _ _) before => if before.number then some .violation else none
    | .modified (.fields _ _ f g) _ => if f.rebinds g then some .violation else none
    | _ => none := by
  change (Rule.tagReuse event).map Observation.outcome = _
  rcases event with ⟨_ | _ | _ | _, _⟩ | ⟨_ | _ | _ | _, _⟩ | ⟨_ | _ | _ | _, _⟩ <;>
    simp [Rule.tagReuse, apply_ite (Option.map Observation.outcome)]

@[simp] theorem outcome?_requiredAdded : outcome? ctx event requiredAdded =
    match event with
    | .added (.field _ f) _ => if f.cardinality.isRequired then some .violation else none
    | .modified (.fields _ _ f g) _ =>
      if g.cardinality.isRequired && !f.cardinality.isRequired then some .violation else none
    | _ => none := by
  change (Rule.requiredAdded event).map Observation.outcome = _
  rcases event with ⟨_ | _ | _ | _, _⟩ | ⟨_ | _ | _ | _, _⟩ | ⟨_ | _ | _ | _, _⟩ <;>
    simp [Rule.requiredAdded, apply_ite (Option.map Observation.outcome)]

@[simp] theorem outcome?_fieldCount : outcome? ctx event fieldCount =
    match event with
    | .added (.message m) _ => (Rule.grown ctx 0 m).map Observation.outcome
    | .modified (.messages old new) _ =>
      (Rule.grown ctx old.fields.length new).map Observation.outcome
    | _ => none := by
  change (Rule.fieldCount ctx event).map Observation.outcome = _
  rcases event with ⟨_ | _ | _ | _, _⟩ | ⟨_ | _ | _ | _, _⟩ | ⟨_ | _ | _ | _, _⟩ <;>
    simp [Rule.fieldCount]

@[simp] theorem outcome?_enumDefault : outcome? ctx event enumDefault =
    match event with
    | .added (.enum e) _ => if e.hasZero then none else some .violation
    | .modified (.enums old new) _ =>
      if old.hasZero && !new.hasZero && new.reserved.coversNumber 0 then some .violation else none
    | _ => none := by
  change (Rule.enumDefault event).map Observation.outcome = _
  rcases event with ⟨_ | _ | _ | _, _⟩ | ⟨_ | _ | _ | _, _⟩ | ⟨_ | _ | _ | _, _⟩ <;>
    simp [Rule.enumDefault, apply_ite (Option.map Observation.outcome)]

@[simp] theorem outcome?_enumValueReuse : outcome? ctx event enumValueReuse =
    match event with
    | .added (.value _ _) before => if before.number then some .violation else none
    | .modified (.values _ _ v w) _ => if v.name = w.name then none else some .violation
    | _ => none := by
  change (Rule.enumValueReuse event).map Observation.outcome = _
  rcases event with ⟨_ | _ | _ | _, _⟩ | ⟨_ | _ | _ | _, _⟩ | ⟨_ | _ | _ | _, _⟩ <;>
    simp [Rule.enumValueReuse, apply_ite (Option.map Observation.outcome)]

@[simp] theorem outcome?_defaultValueChanged : outcome? ctx event defaultValueChanged =
    match event with
    | .modified (.fields _ _ f g) _ =>
      if f.default = g.default || f.rebinds g then none
      else if f.type = g.type && f.sameAssumedValue ctx.base ctx.candidate g then none
      else some .violation
    | _ => none := by
  change (Rule.defaultValueChanged ctx event).map Observation.outcome = _
  rcases event with ⟨_ | _ | _ | _, _⟩ | ⟨_ | _ | _ | _, _⟩ | ⟨_ | _ | _ | _, _⟩ <;>
    simp [Rule.defaultValueChanged, apply_ite (Option.map Observation.outcome)]

@[simp] theorem outcome?_repeatedToScalar : outcome? ctx event repeatedToScalar =
    match event with
    | .modified (.fields _ _ f g) _ =>
      if f.rebinds g || f.cardinality.isRepeated = g.cardinality.isRepeated then none
      else if f.cardinality.isRepeated then some .violation else some .relaxed
    | _ => none := by
  change (Rule.repeatedToScalar event).map Observation.outcome = _
  rcases event with ⟨_ | _ | _ | _, _⟩ | ⟨_ | _ | _ | _, _⟩ | ⟨_ | _ | _ | _, _⟩ <;>
    simp [Rule.repeatedToScalar, apply_ite (Option.map Observation.outcome)]

@[simp] theorem outcome?_unreservedRemoval : outcome? ctx event unreservedRemoval =
    match event with
    | .removed (.field _ _) after | .removed (.value _ _) after =>
      if after.number then none else some .violation
    | _ => none := by
  change (Rule.unreservedRemoval event).map Observation.outcome = _
  rcases event with ⟨_ | _ | _ | _, _⟩ | ⟨_ | _ | _ | _, _⟩ | ⟨_ | _ | _ | _, _⟩ <;>
    simp [Rule.unreservedRemoval, Entity.number?, apply_ite (Option.map Observation.outcome)]

@[simp] theorem outcome?_nameNotReserved : outcome? ctx event nameNotReserved =
    match event with
    | .removed (.field _ _) after | .removed (.value _ _) after =>
      if after.number && !after.name then some .violation else none
    | _ => none := by
  change (Rule.nameNotReserved event).map Observation.outcome = _
  rcases event with ⟨_ | _ | _ | _, _⟩ | ⟨_ | _ | _ | _, _⟩ | ⟨_ | _ | _ | _, _⟩ <;>
    simp [Rule.nameNotReserved, Entity.isType, apply_ite (Option.map Observation.outcome)]

@[simp] theorem outcome?_reservedNameReuse : outcome? ctx event reservedNameReuse =
    match event with
    | .added (.field _ _) before | .added (.value _ _) before =>
      if before.name then some .violation else none
    | .modified (.fields _ _ _ _) changes | .modified (.values _ _ _ _) changes =>
      if Rule.takesReservedName changes then some .violation else none
    | _ => none := by
  change (Rule.reservedNameReuse event).map Observation.outcome = _
  rcases event with ⟨_ | _ | _ | _, _⟩ | ⟨_ | _ | _ | _, _⟩ | ⟨_ | _ | _ | _, _⟩ <;>
    simp [Rule.reservedNameReuse, Revision.new, Entity.isType,
      apply_ite (Option.map Observation.outcome)]

@[simp] theorem outcome?_reservationDropped : outcome? ctx event reservationDropped =
    match event with
    | .modified (.messages _ new) changes =>
      if (Rule.dropped new.reserved changes).isEmpty then none else some .violation
    | .modified (.enums _ new) changes =>
      if (Rule.dropped new.reserved changes).isEmpty then none else some .violation
    | _ => none := by
  change (Rule.reservationDropped event).map Observation.outcome = _
  rcases event with ⟨_ | _ | _ | _, _⟩ | ⟨_ | _ | _ | _, _⟩ | ⟨_ | _ | _ | _, _⟩ <;>
    simp [Rule.reservationDropped, Rule.reservationDropped.report,
      apply_ite (Option.map Observation.outcome)]

theorem outcome_removedType {name : String} {kind : TypeKind} :
    (Rule.removedType ctx name kind).outcome = .violation := by
  unfold Rule.removedType
  split
  · rfl
  · split <;> rfl

@[simp] theorem outcome?_typeRemoved : outcome? ctx event typeRemoved =
    match event with
    | .removed (.message _) _ | .removed (.enum _) _ => some .violation
    | _ => none := by
  change (Rule.typeRemoved ctx event).map Observation.outcome = _
  rcases event with ⟨_ | _ | _ | _, _⟩ | ⟨_ | _ | _ | _, _⟩ | ⟨_ | _ | _ | _, _⟩ <;>
    simp [Rule.typeRemoved, outcome_removedType]

@[simp] theorem outcome?_typeChange : outcome? ctx event typeChange =
    match event with
    | .modified (.fields _ _ f g) _ => f.typeOutcome? ctx g
    | _ => none := by
  rcases event with ⟨_ | _ | _ | _, _⟩ | ⟨_ | _ | _ | _, _⟩ | ⟨_ | _ | ⟨m, n, f, g⟩ | _, changes⟩
  case modified.fields =>
    simp only [outcome?, check, Rule.typeChange, Field.typeOutcome?]
    cases f.type = g.type || f.rebinds g
    case true => rfl
    case false =>
      cases f.type.compare g.type with
      | error fault => rfl
      | ok comparison =>
          cases comparison with
          | same => rfl
          | incompatible => rfl
          | convertible conversion =>
              by_cases cardinality : f.cardinality = g.cardinality <;>
                by_cases narrows : conversion = .narrowing <;>
                simp [bind, Except.bind, pure, Except.pure, Rule.judgeType, cardinality, narrows]
          | structural =>
              rcases answer : (ctx.superset.references [] f.type g.type).1 with fault | _ | _ <;>
                by_cases cardinality : f.cardinality = g.cardinality <;>
                simp [bind, Except.bind, pure, Except.pure, Rule.judgeType, answer, cardinality]
  all_goals rfl

end RuleId

/-- The kind of site that an event happens at. -/
structure Site where
  onType : Bool
  gone : Bool
deriving Repr, DecidableEq

/-- Where an event happens. -/
def ChangeEvent.site : ChangeEvent → Site
  | .added entity _ => ⟨entity.isType, false⟩
  | .removed entity _ => ⟨entity.isType, true⟩
  | .modified revision _ => ⟨revision.new.isType, false⟩

namespace RuleId

/-- Where a rule looks. -/
def site : RuleId → Site
  | typeRemoved => ⟨true, true⟩
  | fieldCount | enumDefault | reservationDropped => ⟨true, false⟩
  | unreservedRemoval | nameNotReserved => ⟨false, true⟩
  | tagReuse | typeChange | requiredAdded | enumValueReuse | defaultValueChanged
  | repeatedToScalar | reservedNameReuse => ⟨false, false⟩

theorem site_eq_of_fires {ctx : RuleContext} {event : ChangeEvent} {id : RuleId} {o : Outcome}
    (fires : id.outcome? ctx event = some o) : id.site = event.site := by
  rcases event with ⟨_ | _ | _ | _, _⟩ | ⟨_ | _ | _ | _, _⟩ | ⟨_ | _ | _ | _, _⟩ <;>
    cases id <;> simp_all [site, ChangeEvent.site, Entity.isType, Revision.new]

end RuleId

end SchemaEvolution
