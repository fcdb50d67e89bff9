import SchemaEvolution.Change.Diff
import SchemaEvolution.Config.Settings
import SchemaEvolution.Wire.Superset

/-! # Observations

What a rule sees and what it may answer.  A rule looks at one event at a time, answers at most
one observation, and knows nothing of severities.
-/

namespace SchemaEvolution

/-- What a rule may consult beside the event. -/
structure RuleContext where
  base : Snapshot
  candidate : Snapshot
  settings : Settings
deriving Repr, DecidableEq

/-- What a rule says about an event. -/
structure Observation where
  outcome : Outcome
  message : String
  oldValue : Option String := none
  newValue : Option String := none
deriving Repr, DecidableEq

namespace Observation

/-- The change that the rule exists to catch. -/
def violation (message : String) : Observation := { outcome := .violation, message }

/-- The observation with an old and a new value. -/
def between (o : Observation) (old new : String) : Observation :=
  { o with oldValue := some old, newValue := some new }

def was (o : Observation) (old : String) : Observation := { o with oldValue := some old }

def now (o : Observation) (new : String) : Observation := { o with newValue := some new }

end Observation

namespace RuleContext

/-- The comparison of messages between the two snapshots. -/
def superset (ctx : RuleContext) : Superset :=
  ⟨ctx.base, ctx.candidate, ctx.settings.allowNarrowing⟩

end RuleContext

namespace Field

def describe (f : Field) : String := s!"{f.name} ({f.type.text})"

/-- Whether a tag passed to a field that shares nothing but the number.  A renamed field of a
    related type is a renaming: the bytes cannot tell. -/
def rebinds (old new : Field) : Bool := old.name != new.name && !old.type.wireRelated new.type

end Field

end SchemaEvolution
