import SchemaEvolution.Report.Basic
import SchemaEvolution.Report.Embedding

/-! # Consolidation

From the findings of all types to the findings of a report.  They are escalated if that is asked
for, put into their order, and of the findings of one rule at one path only the first is kept,
which is one of the gravest.
-/

namespace SchemaEvolution

namespace Severity

def place : Severity → Nat
  | breaking => 0
  | advisory => 1

end Severity

namespace Finding

/-- The order of findings: the gravest first, then by path and rule.  The rest only tells apart
    what is left. -/
def compare : Finding → Finding → Ordering :=
  compareLex (compareOn (·.severity.place)) <|
  compareLex (compareOn Finding.path) <|
  compareLex (compareOn (·.rule.text)) <|
  compareLex (compareOn Finding.message) <|
  compareLex (compareOn Finding.oldValue) (compareOn Finding.newValue)

/-- Whether a finding may stand in front of another one. -/
def notAfter (f g : Finding) : Bool := (f.compare g).isLE

/-- What a report may hold only one finding for. -/
def key (f : Finding) : RuleId × String := (f.rule, f.path)

def escalate (f : Finding) : Finding :=
  match f.severity with
  | .advisory => { f with severity := .breaking, escalated := true }
  | .breaking => f

def firstOfEach : List Finding → List Finding
  | [] => []
  | f :: rest => f :: (firstOfEach rest).filter fun g => g.key != f.key

def consolidate (escalateAll : Bool) (findings : List Finding) : List Finding :=
  let graded := if escalateAll then findings.map escalate else findings
  firstOfEach (Sorted.sortStable notAfter graded)

/-- A breaking finding with the types that embed the type it is about: in the candidate if the
    type is still there, in the base if it is gone. -/
def annotate (base candidate : Snapshot) (f : Finding) : Finding :=
  if f.isBreaking then
    let home := if candidate.has f.typeName then candidate else base
    { f with affected := home.embedders f.typeName }
  else f

end Finding

namespace Report

def assemble (escalateAll : Bool) (findings : List Finding) (stats : DiffStats) (complete : Bool)
    (base candidate : Snapshot) (generatedAt : Timestamp) : Report :=
  let findings :=
    (Finding.consolidate escalateAll findings).map (Finding.annotate base candidate)
  let breaking := findings.any fun f => f.isBreaking && !f.escalated
  let requiredBump := Bump.required breaking (0 < stats.added) stats.hasChanges
  { verdict := .of findings complete
    complete
    findings
    stats
    base := .of base
    candidate := .of candidate
    requiredBump
    versionCheck := do return .of (← base.version) (← candidate.version) requiredBump
    generatedAt }

end Report

end SchemaEvolution
