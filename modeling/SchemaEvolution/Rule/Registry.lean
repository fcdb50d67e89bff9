import SchemaEvolution.Rule.Finding
import SchemaEvolution.Rule.Reuse
import SchemaEvolution.Rule.Removal
import SchemaEvolution.Rule.Shape
import SchemaEvolution.Rule.Default

/-! # All rules

Every rule under its id, and what a list of rules finds in the events of one type.  A rule that
cannot judge an event says so in an advisory finding, and the other rules go on.
-/

namespace SchemaEvolution

namespace RuleId

/-- What a rule says about an event.  Only the comparison of types can fail. -/
def check (ctx : RuleContext) (event : ChangeEvent) :
    RuleId → Except WireFault (Option Observation)
  | tagReuse => .ok (Rule.tagReuse event)
  | typeChange => Rule.typeChange ctx event
  | requiredAdded => .ok (Rule.requiredAdded event)
  | fieldCount => .ok (Rule.fieldCount ctx event)
  | enumDefault => .ok (Rule.enumDefault event)
  | enumValueReuse => .ok (Rule.enumValueReuse event)
  | defaultValueChanged => .ok (Rule.defaultValueChanged ctx event)
  | repeatedToScalar => .ok (Rule.repeatedToScalar event)
  | unreservedRemoval => .ok (Rule.unreservedRemoval event)
  | nameNotReserved => .ok (Rule.nameNotReserved event)
  | reservedNameReuse => .ok (Rule.reservedNameReuse event)
  | reservationDropped => .ok (Rule.reservationDropped event)
  | typeRemoved => .ok (Rule.typeRemoved ctx event)

end RuleId

/-- Rules that run, and how they are graded. -/
structure Registry where
  rules : List RuleId
  severities : SeverityTable
  settings : Settings
deriving Repr, DecidableEq

namespace Registry

/-- The rules that settings select, graded as they say. -/
def ofSettings (settings : Settings) : Except Failure Registry := do
  settings.validate
  let rules ← settings.rules
  let severities ← settings.severities
  return ⟨rules, severities, settings⟩

/-- The observation that a rule could not judge. -/
def unevaluated (fault : WireFault) : Observation :=
  { outcome := .unevaluated, message := s!"unable to evaluate: {fault.message}" }

/-- An observation of a rule on an event of a type, with the severity that it has here. -/
def finding (r : Registry) (typeName : String) (event : ChangeEvent) (id : RuleId)
    (o : Observation) : Finding :=
  { rule := id
    severity := r.severities.get id o.outcome
    path := event.path
    typeName
    message := o.message
    oldValue := o.oldValue
    newValue := o.newValue }

/-- What one rule finds in one event of a type. -/
def findingOf (r : Registry) (ctx : RuleContext) (typeName : String) (event : ChangeEvent)
    (id : RuleId) : Option Finding :=
  match id.check ctx event with
  | .ok o => o.map (r.finding typeName event id)
  | .error fault => some (r.finding typeName event id (unevaluated fault))

/-- What the rules find in the events of one type: event by event, and rule by rule. -/
def evaluate (r : Registry) (base candidate : Snapshot) (d : TypeDiff) : List Finding :=
  let ctx : RuleContext := ⟨base, candidate, r.settings⟩
  d.events.flatMap fun event => r.rules.filterMap (r.findingOf ctx d.name event)

end Registry

end SchemaEvolution
