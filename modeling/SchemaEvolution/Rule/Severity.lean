import SchemaEvolution.Rule.Id

/-! # Severities

How grave a finding is.  A rule may fire in the direction that it exists to catch, in a tolerated
direction, or because it could not judge; each way has its own default.  A configuration grades a
rule anew as a whole, but not the cases that the rule could not judge.
-/

namespace SchemaEvolution

/-- How grave a finding is. -/
inductive Severity
  /-- A risk that corrupts nothing today. -/
  | advisory
  /-- Some deployed peer is expected to lose or corrupt data. -/
  | breaking
deriving Repr, DecidableEq

/-- Which way a rule fired. -/
inductive Outcome
  /-- The change that the rule exists to catch. -/
  | violation
  /-- The tolerated direction. -/
  | relaxed
  /-- The rule could not judge. -/
  | unevaluated
deriving Repr, DecidableEq

/-- The rules that are graded anew, the latest decision first. -/
structure SeverityTable where
  decisions : List (RuleId × Severity)
deriving Repr, DecidableEq

namespace Severity

def text : Severity → String
  | advisory => "advisory"
  | breaking => "breaking"

def table : List (String × Severity) := [("advisory", advisory), ("breaking", breaking)]

end Severity

namespace RuleId

/-- How grave the change is that a rule exists to catch. -/
def severity : RuleId → Severity
  | tagReuse | typeChange | requiredAdded | enumValueReuse | defaultValueChanged
  | repeatedToScalar => .breaking
  | fieldCount | enumDefault | unreservedRemoval | nameNotReserved | reservedNameReuse
  | reservationDropped | typeRemoved => .advisory

/-- How grave the tolerated direction of a rule is. -/
def relaxedSeverity : RuleId → Severity
  | typeChange | repeatedToScalar => .advisory
  | id => id.severity

end RuleId

namespace SeverityTable

def standard : SeverityTable := ⟨[]⟩

def set (t : SeverityTable) (id : RuleId) (severity : Severity) : SeverityTable :=
  ⟨(id, severity) :: t.decisions⟩

/-- How grave a rule is that fires in a given way. -/
def get (t : SeverityTable) (id : RuleId) (outcome : Outcome) : Severity :=
  match outcome with
  | .unevaluated => .advisory
  | .violation => (t.decisions.lookup id).getD id.severity
  | .relaxed => (t.decisions.lookup id).getD id.relaxedSeverity

def ofDecisions (decisions : List (String × Severity)) : Except Failure SeverityTable :=
  decisions.foldlM (fun t (text, severity) => do return t.set (← RuleId.read text) severity)
    standard

theorem get_unevaluated (t : SeverityTable) (id : RuleId) : t.get id .unevaluated = .advisory :=
  rfl

end SeverityTable

end SchemaEvolution
