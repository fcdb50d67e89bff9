import SchemaEvolution.Calendar.Timestamp
import SchemaEvolution.Change.Diff
import SchemaEvolution.Rule.Finding
import SchemaEvolution.Schema.Codec
import SchemaEvolution.Version.Bump

/-! # Reports

The outcome of a run: a verdict, the findings in their order, and what was compared.
-/

namespace SchemaEvolution

/-- The outcome of a run. -/
inductive Verdict
  | pass
  | fail
  /-- Not every type was checked. -/
  | unknown
deriving Repr, DecidableEq

/-- Which snapshot was compared. -/
structure SnapshotInfo where
  label : String
  checksum : Checksum
  version : Option Version
  types : Nat
deriving Repr, DecidableEq

/-- The outcome of a run with all that led to it. -/
structure Report where
  verdict : Verdict
  complete : Bool
  findings : List Finding
  stats : DiffStats
  base : SnapshotInfo
  candidate : SnapshotInfo
  /-- The smallest version step that the changes require. -/
  requiredBump : Bump
  versionCheck : Option VersionCheck
  generatedAt : Timestamp
deriving Repr, DecidableEq

namespace Verdict

def text : Verdict → String
  | pass => "pass"
  | fail => "fail"
  | unknown => "unknown"

def of (findings : List Finding) (complete : Bool) : Verdict :=
  if !complete then unknown else if findings.any Finding.isBreaking then fail else pass

end Verdict

namespace SnapshotInfo

/-- What a report says about a snapshot. -/
def of (s : Snapshot) : SnapshotInfo := ⟨s.label, s.checksum, s.version, s.types.length⟩

end SnapshotInfo

namespace Report

def breakingCount (r : Report) : Nat := r.findings.countP Finding.isBreaking

def advisoryCount (r : Report) : Nat := r.findings.length - r.breakingCount

end Report

end SchemaEvolution
