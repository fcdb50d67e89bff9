import SchemaEvolution.Report.Consolidation
import SchemaEvolution.Rule.Registry

/-! # Runs

A run checks the types of two snapshots name by name.  What it finds about one name does not
depend on the others, so a run that is stopped has checked some of the names, and its report says
so.
-/

namespace SchemaEvolution

/-- What was found about one name. -/
structure TypeOutcome where
  stats : DiffStats
  findings : List Finding
deriving Repr, DecidableEq

namespace Registry

def examine (r : Registry) (base candidate : Snapshot) (pair : TypePair) : TypeOutcome :=
  let diff := TypeDiff.of pair
  ⟨diff.stats, r.evaluate base candidate diff⟩

/-- The report of a run that has checked some of the names. -/
def reportOn (r : Registry) (base candidate : Snapshot) (processed : List TypePair)
    (generatedAt : Timestamp) : Report :=
  let outcomes := processed.map (r.examine base candidate)
  Report.assemble r.settings.treatAdvisoryAsError (outcomes.flatMap TypeOutcome.findings)
    (.sum (outcomes.map TypeOutcome.stats))
    (processed.length == (TypePair.all base candidate).length) base candidate generatedAt

/-- The report of a run that has checked every name. -/
def check (r : Registry) (base candidate : Snapshot) (generatedAt : Timestamp) : Report :=
  r.reportOn base candidate (TypePair.all base candidate) generatedAt

/-- The report of a run that was stopped before it began. -/
def checkCancelled (r : Registry) (base candidate : Snapshot) (generatedAt : Timestamp) : Report :=
  r.reportOn base candidate [] generatedAt

end Registry

end SchemaEvolution
