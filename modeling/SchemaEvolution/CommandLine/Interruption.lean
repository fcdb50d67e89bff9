import SchemaEvolution.Check.Pool
import SchemaEvolution.CommandLine.Run

/-! # Checks that somebody may stop

A check of the command line is carried out by a pool of workers, and whoever started it may stop
it.  A run that nobody stops ends as `run` says, whatever the schedule.
-/

namespace SchemaEvolution.CommandLine

/-- How a check ends that has its report. -/
def conclude (around : Surroundings) (o : CheckOptions) (r : Report) : Ending :=
  (Ending.of (deliver around o r)).handedOut around

/-- How a check ends that a pool carries out, if the schedule lasts until all workers have left. -/
def checkScheduled (around : Surroundings) (now : Timestamp) (suggested : Nat)
    (schedule : List Move) (configFile : Option String) (o : CheckOptions) : Option Ending :=
  match prepare around configFile o with
  | .error stop => some (stop.ending.handedOut around)
  | .ok (registry, base, candidate) =>
    (registry.checkScheduled base candidate suggested schedule now).map (conclude around o)

end SchemaEvolution.CommandLine
