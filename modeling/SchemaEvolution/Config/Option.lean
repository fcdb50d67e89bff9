import SchemaEvolution.Text.LowerCase

/-! # Options by name

Every setting has an option.  Underscores and the case of ASCII letters do not count in its name.
-/

namespace SchemaEvolution

/-- The options of a configuration, in the order of declaration. -/
inductive ConfigOption
  | fieldCountThreshold
  | treatAdvisoryAsError
  | ruleAllowlist
  | ruleDenylist
  | integerNarrowing
  | workers
  | severityOverrides
deriving Repr, DecidableEq

namespace ConfigOption

def all : List ConfigOption :=
  [fieldCountThreshold, treatAdvisoryAsError, ruleAllowlist, ruleDenylist, integerNarrowing,
   workers, severityOverrides]

def text : ConfigOption → String
  | fieldCountThreshold => "field_count_threshold"
  | treatAdvisoryAsError => "treat_advisory_as_error"
  | ruleAllowlist => "rule_allowlist"
  | ruleDenylist => "rule_denylist"
  | integerNarrowing => "integer_narrowing"
  | workers => "workers"
  | severityOverrides => "severity_overrides"

/-- The name of an option in JSON with capitals in place of underscores. -/
def capitalText : ConfigOption → String
  | fieldCountThreshold => "fieldCountThreshold"
  | treatAdvisoryAsError => "treatAdvisoryAsError"
  | ruleAllowlist => "ruleAllowlist"
  | ruleDenylist => "ruleDenylist"
  | integerNarrowing => "integerNarrowing"
  | workers => "workers"
  | severityOverrides => "severityOverrides"

def squash (name : String) : List Char :=
  (name.toList.filter (· ≠ '_')).map Char.toLower

/-- The option that a name stands for. -/
def find? (name : String) : Option ConfigOption :=
  all.find? fun option => squash option.text == squash name

end ConfigOption

end SchemaEvolution
