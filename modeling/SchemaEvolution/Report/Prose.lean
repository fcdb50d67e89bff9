import SchemaEvolution.Report.Codec

/-! # Reports for people

The report as plain text, and the choice of an output format.
-/

namespace SchemaEvolution

/-- How a report is written. -/
inductive OutputFormat
  | text
  | json
  /-- One JSON record a line. -/
  | jsonl
deriving Repr, DecidableEq

namespace Report

/-- The rule above and below the title. -/
def bar : String := "═══════════════════════════════════════════════════════════════════"

def title : String := "                   SCHEMA COMPATIBILITY REPORT                     "

/-- One finding, set in under its heading. -/
def findingLines (f : Finding) : String :=
  "  " ++ String.ofList (f.text.toList.flatMap fun c => if c = '\n' then ['\n', ' ', ' '] else [c])

/-- The findings of one severity under a heading; nothing if there are none. -/
def block (heading : String) (findings : List Finding) : List String :=
  if findings.isEmpty then []
  else s!"{heading} ({findings.length}):" :: findings.map findingLines ++ [""]

/-- The line about the step between the two versions. -/
def declaredLine (c : VersionCheck) : String :=
  let note := if c.satisfied then "" else " [INSUFFICIENT]"
  s!"  Declared bump: {c.declared.text} ({c.base.display} -> {c.candidate.display})" ++ note

def lines (r : Report) : List String :=
  [bar, title, bar,
   s!"base:      {r.base.label} ({r.base.checksum.short})",
   s!"candidate: {r.candidate.label} ({r.candidate.checksum.short})",
   ""] ++
  block "BREAKING" (r.findings.filter Finding.isBreaking) ++
  block "ADVISORY" (r.findings.filter fun f => !f.isBreaking) ++
  ["SUMMARY:",
   s!"  Added:     {r.stats.added}",
   s!"  Removed:   {r.stats.removed}",
   s!"  Modified:  {r.stats.modified}",
   s!"  Required bump: {r.requiredBump.text}"] ++
  r.versionCheck.toList.map declaredLine ++
  (if r.complete then [] else ["  Run cancelled before every type was analysed"]) ++
  [s!"  Verdict:   {r.verdict.text.toUpper}"]

def text (r : Report) : String := String.join (r.lines.map (· ++ "\n"))

def render (r : Report) : OutputFormat → String
  | .text => r.text
  | .json => r.toJson.pretty
  | .jsonl => r.jsonLines

end Report

namespace OutputFormat

def table : List (String × OutputFormat) := [("text", text), ("json", json), ("jsonl", jsonl)]

/-- The format with a name, or the complaint about it. -/
def read (name : String) : Except String OutputFormat :=
  match table.lookup name with
  | some format => .ok format
  | none => .error s!"unknown output format '{name}' (text, json, jsonl)"

end OutputFormat

end SchemaEvolution
