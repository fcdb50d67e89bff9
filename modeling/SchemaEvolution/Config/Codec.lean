import SchemaEvolution.Config.Option
import SchemaEvolution.Config.Settings
import SchemaEvolution.Report.Codec
import SchemaEvolution.Toml.Printer

/-! # Settings in JSON and TOML

JSON is read strictly: the types are the declared ones, and each option has two spellings of which
one may be used.  TOML is written with the lists and scalars in front of the table of severities.
-/

namespace SchemaEvolution

namespace Narrowing

def ofJson? : Json → Option Narrowing := Json.variant? .plain table

end Narrowing

namespace Settings

/-- The name of an option behind a key of a JSON object. -/
def plainKey (k : String) : String :=
  match ConfigOption.all.find? (·.capitalText == k) with
  | some option => option.text
  | none => k

def plainKeys : Json → Json
  | .object members => .object (members.map fun (k, v) => (plainKey k, v))
  | v => v

/-- Severities from JSON; of a repeated key the last one counts. -/
def overridesOfJson? : Json → Option (List (String × Severity))
  | .object members => do
    let decisions ← members.mapM fun (k, v) => (Severity.ofJson? v).map (k, ·)
    return overridesOf decisions
  | _ => none

def ofJson? (v : Json) : Option Settings := do
  let members ← Json.record? (ConfigOption.all.map ConfigOption.text) true (plainKeys v)
  let standard : Settings := {}
  let fieldCountThreshold ←
    members.withDefault? "field_count_threshold" standard.fieldCountThreshold Json.word64?
  let treatAdvisoryAsError ←
    members.withDefault? "treat_advisory_as_error" standard.treatAdvisoryAsError Json.bool?
  let ruleAllowlist ←
    members.withDefault? "rule_allowlist" standard.ruleAllowlist (Json.list? Json.string?)
  let ruleDenylist ←
    members.withDefault? "rule_denylist" standard.ruleDenylist (Json.list? Json.string?)
  let integerNarrowing ←
    members.withDefault? "integer_narrowing" standard.integerNarrowing Narrowing.ofJson?
  let workers ← members.optional? "workers" Json.word64?
  let severityOverrides ←
    members.withDefault? "severity_overrides" standard.severityOverrides overridesOfJson?
  return { fieldCountThreshold, treatAdvisoryAsError, ruleAllowlist, ruleDenylist,
           integerNarrowing, workers, severityOverrides }

def toJson (s : Settings) : Json :=
  .object <|
    [("field_count_threshold", .nat s.fieldCountThreshold),
     ("treat_advisory_as_error", .bool s.treatAdvisoryAsError),
     ("rule_allowlist", .strings s.ruleAllowlist), ("rule_denylist", .strings s.ruleDenylist),
     ("integer_narrowing", .string s.integerNarrowing.text)] ++
    (match s.workers with
      | none => []
      | some n => [("workers", .nat n)]) ++
    [("severity_overrides",
      .object (s.severityOverrides.map fun (k, severity) => (k, .string severity.text)))]

/-- A number in TOML, which has no integers beyond 64 bits with a sign. -/
def tomlNumber (n : Nat) : Except Failure String :=
  if n ≤ Digits.int64Max then .ok (String.ofList (Digits.write n))
  else .error (.invalidOption "config" "out-of-range value for u64 type")

def tomlBool (b : Bool) : String := if b then "true" else "false"

def toToml (s : Settings) : Except Failure String := do
  let threshold ← tomlNumber s.fieldCountThreshold
  let workers ← s.workers.mapM tomlNumber
  let scalars :=
    [("field_count_threshold", threshold),
     ("treat_advisory_as_error", tomlBool s.treatAdvisoryAsError),
     ("rule_allowlist", Toml.writeStrings s.ruleAllowlist),
     ("rule_denylist", Toml.writeStrings s.ruleDenylist),
     ("integer_narrowing", Toml.writeString s.integerNarrowing.text)] ++
    workers.toList.map ("workers", ·)
  let overrides := s.severityOverrides.map fun (k, severity) =>
    (Toml.writeKey k, Toml.writeString severity.text)
  return lines scalars ++ "\n[severity_overrides]\n" ++ lines overrides
where
  /-- Assignments, one a line. -/
  lines (assignments : List (String × String)) : String :=
    String.join (assignments.map fun (k, value) => k ++ " = " ++ value ++ "\n")

end Settings

end SchemaEvolution
