import SchemaEvolution.Rule.Severity
import SchemaEvolution.Text.NameSet

/-! # Settings

What a configuration decides.  Settings that were read are not yet settings that make sense:
`validate` refuses numbers that are zero and texts that name no rule.
-/

namespace SchemaEvolution

/-- How narrowing of integers is graded. -/
inductive Narrowing
  | breaking
  | advisory
deriving Repr, DecidableEq

/-- The settings of a run. -/
structure Settings where
  /-- Messages that grow past this number of fields get an advisory finding. -/
  fieldCountThreshold : Nat := 200
  /-- Whether every advisory finding is raised to a breaking one. -/
  treatAdvisoryAsError : Bool := false
  /-- The rules that run; every rule if empty. -/
  ruleAllowlist : List String := []
  /-- The rules that never run. -/
  ruleDenylist : List String := []
  integerNarrowing : Narrowing := .breaking
  /-- How many types may be checked at a time.  The answer does not depend on it. -/
  workers : Option Nat := none
  /-- Rules that are graded anew, in the order of their texts. -/
  severityOverrides : List (String × Severity) := []
deriving Repr, DecidableEq

namespace Narrowing

def text : Narrowing → String
  | breaking => "breaking"
  | advisory => "advisory"

def table : List (String × Narrowing) := [("breaking", breaking), ("advisory", advisory)]

end Narrowing

namespace Settings

/-- The overrides that a list of decisions comes to: one for each key, the last one, in the order
    of keys. -/
def overridesOf (decisions : List (String × Severity)) : List (String × Severity) :=
  (Sorted.sortDistinct nameBefore (decisions.map Prod.fst)).filterMap fun k =>
    (decisions.reverse.lookup k).map (k, ·)

/-- Every text of the settings that has to name a rule. -/
def ruleTexts (s : Settings) : List String :=
  s.ruleAllowlist ++ s.ruleDenylist ++ s.severityOverrides.map Prod.fst

def validate (s : Settings) : Except Failure Unit := do
  if s.fieldCountThreshold = 0 then
    throw (.invalidOption "field_count_threshold" "must be at least 1")
  if s.workers = some 0 then
    throw (.invalidOption "workers" "must be at least 1")
  s.ruleTexts.forM fun text => discard (RuleId.read text)

def allowNarrowing (s : Settings) : Bool := s.integerNarrowing == .advisory

def severities (s : Settings) : Except Failure SeverityTable :=
  SeverityTable.ofDecisions s.severityOverrides

/-- The rules that run, in their order. -/
def rules (s : Settings) : Except Failure (List RuleId) := do
  let allow ← s.ruleAllowlist.mapM RuleId.read
  let deny ← s.ruleDenylist.mapM RuleId.read
  return RuleId.all.filter fun id => (allow.isEmpty || allow.contains id) && !deny.contains id

end Settings

end SchemaEvolution
