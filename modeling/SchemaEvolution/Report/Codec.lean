import SchemaEvolution.Report.Basic

/-! # Reports in JSON

Findings and reports are written with their members in the order of declaration, and without
members that carry nothing.  `jsonLines` writes one record a line: the findings, then a summary.
-/

namespace SchemaEvolution

namespace RuleId

def table : List (String × RuleId) := all.map fun id => (id.text, id)

def ofJson? : Json → Option RuleId := Json.variant? .plain table

end RuleId

namespace Severity

def ofJson? : Json → Option Severity := Json.variant? .plain table

end Severity

namespace Finding

def toMembers (f : Finding) : Json.Members :=
  [("rule", .string f.rule.text), ("severity", .string f.severity.text), ("path", .string f.path),
   ("type_name", .string f.typeName), ("message", .string f.message)] ++
  (match f.oldValue with
    | none => []
    | some text => [("old_value", .string text)]) ++
  (match f.newValue with
    | none => []
    | some text => [("new_value", .string text)]) ++
  (if f.escalated then [("escalated", .bool true)] else []) ++
  (if f.affected.isEmpty then [] else [("affected", .strings f.affected)])

def toJson (f : Finding) : Json := .object f.toMembers

/-- The fields of a finding, in the order of declaration. -/
def fields : List String :=
  ["rule", "severity", "path", "type_name", "message", "old_value", "new_value", "escalated",
   "affected"]

def ofJson? (v : Json) : Option Finding := do
  let members ← Json.record? fields false v
  let rule ← members.required? "rule" RuleId.ofJson?
  let severity ← members.required? "severity" Severity.ofJson?
  let path ← members.required? "path" Json.string?
  let typeName ← members.required? "type_name" Json.string?
  let message ← members.required? "message" Json.string?
  let oldValue ← members.optional? "old_value" Json.string?
  let newValue ← members.optional? "new_value" Json.string?
  let escalated ← members.withDefault? "escalated" false Json.bool?
  let affected ← members.withDefault? "affected" [] (Json.list? Json.string?)
  return { rule, severity, path, typeName, message, oldValue, newValue, escalated, affected }

end Finding

namespace Version

/-- A version from JSON; no letter may stand in front. -/
def ofJson? (v : Json) : Option Version := do (readBare (← Json.string? v)).toOption

end Version

namespace Bump

def table : List (String × Bump) := [none, patch, minor, major].map fun b => (b.text, b)

def ofJson? : Json → Option Bump := Json.variant? .plain table

end Bump

namespace VersionCheck

def toJson (c : VersionCheck) : Json :=
  .object [("base", .string c.base.text), ("candidate", .string c.candidate.text),
    ("declared", .string c.declared.text), ("required", .string c.required.text),
    ("satisfied", .bool c.satisfied)]

def ofJson? (v : Json) : Option VersionCheck := do
  let members ← Json.record? ["base", "candidate", "declared", "required", "satisfied"] false v
  let base ← members.required? "base" Version.ofJson?
  let candidate ← members.required? "candidate" Version.ofJson?
  let declared ← members.required? "declared" Bump.ofJson?
  let required ← members.required? "required" Bump.ofJson?
  let satisfied ← members.required? "satisfied" Json.bool?
  return ⟨base, candidate, declared, required, satisfied⟩

end VersionCheck

namespace DiffStats

def toJson (s : DiffStats) : Json :=
  .object [("added", .nat s.added), ("removed", .nat s.removed), ("modified", .nat s.modified)]

def ofJson? (v : Json) : Option DiffStats := do
  let members ← Json.record? ["added", "removed", "modified"] false v
  let added ← members.required? "added" Json.word64?
  let removed ← members.required? "removed" Json.word64?
  let modified ← members.required? "modified" Json.word64?
  return ⟨added, removed, modified⟩

end DiffStats

namespace SnapshotInfo

/-- What a report says about a snapshot, in JSON. -/
def toJson (i : SnapshotInfo) : Json :=
  .object <|
    [("label", .string i.label), ("checksum", .string i.checksum.hex)] ++
    (match i.version with
      | none => []
      | some version => [("version", .string version.text)]) ++
    [("types", .nat i.types)]

/-- What a report says about a snapshot, from JSON. -/
def ofJson? (v : Json) : Option SnapshotInfo := do
  let members ← Json.record? ["label", "checksum", "version", "types"] false v
  let label ← members.required? "label" Json.string?
  let hex ← members.required? "checksum" Json.string?
  let version ← members.optional? "version" Version.ofJson?
  let types ← members.required? "types" Json.word64?
  return ⟨label, ⟨hex⟩, version, types⟩

end SnapshotInfo

namespace Verdict

def table : List (String × Verdict) := [pass, fail, unknown].map fun v => (v.text, v)

def ofJson? : Json → Option Verdict := Json.variant? .plain table

end Verdict

namespace Timestamp

def ofJson? (v : Json) : Option Timestamp := (Json.string? v).bind read?

end Timestamp

namespace Report

/-- The member about versions, if both snapshots have one. -/
def versionMember (r : Report) : Json.Members :=
  match r.versionCheck with
  | none => []
  | some check => [("version_check", check.toJson)]

def toJson (r : Report) : Json :=
  .object <|
    [("verdict", .string r.verdict.text), ("complete", .bool r.complete),
     ("findings", .array (r.findings.map Finding.toJson)), ("stats", r.stats.toJson),
     ("base", r.base.toJson), ("candidate", r.candidate.toJson),
     ("required_bump", .string r.requiredBump.text)] ++
    r.versionMember ++ [("generated_at", .string r.generatedAt.text)]

def ofJson? (v : Json) : Option Report := do
  let members ← Json.record? ["verdict", "complete", "findings", "stats", "base", "candidate",
    "required_bump", "version_check", "generated_at"] false v
  let verdict ← members.required? "verdict" Verdict.ofJson?
  let complete ← members.required? "complete" Json.bool?
  let findings ← members.required? "findings" (Json.list? Finding.ofJson?)
  let stats ← members.required? "stats" DiffStats.ofJson?
  let base ← members.required? "base" SnapshotInfo.ofJson?
  let candidate ← members.required? "candidate" SnapshotInfo.ofJson?
  let requiredBump ← members.required? "required_bump" Bump.ofJson?
  let versionCheck ← members.optional? "version_check" VersionCheck.ofJson?
  let generatedAt ← members.required? "generated_at" Timestamp.ofJson?
  return { verdict, complete, findings, stats, base, candidate, requiredBump, versionCheck,
           generatedAt }

def findingRecord (f : Finding) : Json := .object (("record", .string "finding") :: f.toMembers)

/-- The record of the report without its findings. -/
def summaryRecord (r : Report) : Json :=
  .object <|
    [("record", .string "summary"), ("verdict", .string r.verdict.text),
     ("complete", .bool r.complete), ("breaking", .nat r.breakingCount),
     ("advisory", .nat r.advisoryCount), ("stats", r.stats.toJson),
     ("base", .string r.base.checksum.hex), ("candidate", .string r.candidate.checksum.hex),
     ("required_bump", .string r.requiredBump.text)] ++
    r.versionMember ++ [("generated_at", .string r.generatedAt.text)]

/-- The records of a report: its findings, then the summary. -/
def records (r : Report) : List Json := r.findings.map findingRecord ++ [r.summaryRecord]

def jsonLines (r : Report) : String := String.join (r.records.map fun v => v.compact ++ "\n")

end Report

end SchemaEvolution
