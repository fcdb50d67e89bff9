import SchemaEvolution.Rule.Observation

/-! # The shape of messages

Types and cardinalities of fields, and the number of fields.
-/

namespace SchemaEvolution.Rule

/-- The verdict on a change of type, given how the types compare. -/
def judgeType (ctx : RuleContext) (old new : FieldType) (cardinalityChanged : Bool) :
    TypeComparison → Except WireFault (Option Observation)
  | .same => .ok none
  | .convertible conversion =>
    if cardinalityChanged then
      .ok (some (.violation
        s!"type and cardinality changed together: {old.text} -> {new.text}"))
    else if conversion = .narrowing then
      .ok (some {
        outcome := if ctx.settings.allowNarrowing then .relaxed else .violation
        message := s!"narrowing {old.text} -> {new.text} truncates large values" })
    else .ok none
  | .structural => do
    if (← (ctx.superset.references [] old new).1) && !cardinalityChanged then return none
    return some (.violation s!"{new.text} is not a compatible replacement for {old.text}")
  | .incompatible => .ok (some (.violation s!"type changed from {old.text} to {new.text}"))

/-- A field whose type changed to one that cannot decode the old bytes. -/
def typeChange (ctx : RuleContext) : ChangeEvent → Except WireFault (Option Observation)
  | .modified (.fields _ _ old new) _ => do
    if old.type = new.type || old.rebinds new then return none
    let comparison ← old.type.compare new.type
    let verdict ← judgeType ctx old.type new.type (old.cardinality ≠ new.cardinality) comparison
    return verdict.map (·.between old.type.text new.type.text)
  | _ => .ok none

/-- A field that is required and was not. -/
def requiredAdded : ChangeEvent → Option Observation
  | .added (.field _ f) _ =>
    if f.cardinality.isRequired then
      some (.violation s!"required field '{f.name}' added; old writers never send it")
    else none
  | .modified (.fields _ _ old new) _ =>
    if new.cardinality.isRequired && !old.cardinality.isRequired then
      some ((Observation.violation s!"field '{new.name}' became required").between
        old.cardinality.text "required")
    else none
  | _ => none

/-- A field that held many values and holds one, or the other way round. -/
def repeatedToScalar : ChangeEvent → Option Observation
  | .modified (.fields _ _ old new) _ =>
    if old.rebinds new || old.cardinality.isRepeated = new.cardinality.isRepeated then none
    else if old.cardinality.isRepeated then
      let loss := "all but the last element are dropped"
      some ((Observation.violation
        s!"repeated field '{new.name}' became singular; {loss}").between "repeated" "singular")
    else
      let loss := "old readers keep only the last element"
      let message := s!"singular field '{new.name}' became repeated; {loss}"
      some (Observation.between { outcome := .relaxed, message } "singular" "repeated")
  | _ => none

/-- A message with more fields than before and than the settings allow. -/
def grown (ctx : RuleContext) (before : Nat) (m : MessageType) : Option Observation :=
  let threshold := ctx.settings.fieldCountThreshold
  let count := m.fields.length
  if count ≤ threshold || count ≤ before then none
  else
    some ((Observation.violation s!"{m.name} has {count} fields (threshold {threshold})").between
      s!"{before}" s!"{count}")

/-- A message that grew past the number of fields that the settings allow. -/
def fieldCount (ctx : RuleContext) : ChangeEvent → Option Observation
  | .added (.message m) _ => grown ctx 0 m
  | .modified (.messages old new) _ => grown ctx old.fields.length new
  | _ => none

end SchemaEvolution.Rule
