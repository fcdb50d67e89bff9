import Mathlib.Algebra.GroupWithZero.Nat
import SchemaEvolution.Check.Run

/-! # Pools

A run shares its names out between workers.  A worker looks whether the run is stopped, takes the
first name that nobody has taken, and checks it.  Each keeps what it found, and when all have left
their outputs are put together.

Workers share a flag and a cursor.  A schedule says in which order they move and when the run is
stopped, so every way in which they may run is a schedule.
-/

namespace SchemaEvolution

/-- What one worker found in the names that it checked. -/
structure WorkerOutput where
  findings : List Finding
  stats : DiffStats
  processed : Nat
deriving Repr, DecidableEq

/-- What a worker does next. -/
inductive Station
  /-- It looks whether the run is stopped. -/
  | looking
  /-- It takes a name, for the run was not stopped when it looked. -/
  | taking
  /-- It checks the name that it took. -/
  | checking (pair : TypePair)
  | left
deriving Repr, DecidableEq

structure Worker where
  station : Station
  output : WorkerOutput
deriving Repr, DecidableEq

structure Pool where
  cancelled : Bool
  /-- How often a name was asked for. -/
  cursor : Nat
  workers : List Worker
deriving Repr, DecidableEq

/-- What may happen to a pool. -/
inductive Move
  | cancel
  | work (worker : Nat)
deriving Repr, DecidableEq

namespace Settings

/-- How many workers a run has on a machine that suggests a number of them. -/
def poolSize (s : Settings) (suggested : Nat) (names : Nat) : Nat :=
  max 1 (min (s.workers.getD suggested) names)

end Settings

namespace Registry

variable (r : Registry) (base candidate : Snapshot)

/-- An output after one more name.  Where nothing changed, the rules are not asked. -/
def extend (output : WorkerOutput) (pair : TypePair) : WorkerOutput :=
  let diff := TypeDiff.of pair
  if diff.isEmpty then { output with processed := output.processed + 1 }
  else
    { findings := output.findings ++ r.evaluate base candidate diff
      stats := output.stats + diff.stats
      processed := output.processed + 1 }

/-- The output of a worker that checked some names one after another. -/
def outputOf (pairs : List TypePair) : WorkerOutput :=
  pairs.foldl (r.extend base candidate) ⟨[], .zero, 0⟩

/-- The report of what the workers of a run found. -/
def gather (outputs : List WorkerOutput) (generatedAt : Timestamp) : Report :=
  Report.assemble r.settings.treatAdvisoryAsError (outputs.flatMap WorkerOutput.findings)
    (.sum (outputs.map WorkerOutput.stats))
    ((outputs.map WorkerOutput.processed).sum == (TypePair.all base candidate).length)
    base candidate generatedAt

/-- What a worker does to the cursor and to itself when it moves. -/
def moveWorker (cancelled : Bool) (cursor : Nat) (w : Worker) : Nat × Worker :=
  match w.station with
  | .looking => (cursor, { w with station := if cancelled then .left else .taking })
  | .taking =>
    match (TypePair.all base candidate)[cursor]? with
    | some pair => (cursor + 1, { w with station := .checking pair })
    | none => (cursor + 1, { w with station := .left })
  | .checking pair => (cursor, ⟨.looking, r.extend base candidate w.output pair⟩)
  | .left => (cursor, w)

def movePool (pool : Pool) : Move → Pool
  | .cancel => { pool with cancelled := true }
  | .work i =>
    match pool.workers[i]? with
    | none => pool
    | some w =>
      let (cursor, moved) := r.moveWorker base candidate pool.cancelled pool.cursor w
      { pool with cursor, workers := pool.workers.set i moved }

def runPool (pool : Pool) (schedule : List Move) : Pool :=
  schedule.foldl (r.movePool base candidate) pool

end Registry

namespace Pool

/-- A pool of workers that have not moved yet. -/
def start (size : Nat) : Pool := ⟨false, 0, .replicate size ⟨.looking, ⟨[], .zero, 0⟩⟩⟩

def finished (pool : Pool) : Bool := pool.workers.all (·.station == .left)

end Pool

namespace Registry

/-- The report of a run by a pool, if the schedule lasts until all workers have left. -/
def checkScheduled (r : Registry) (base candidate : Snapshot) (suggested : Nat)
    (schedule : List Move) (generatedAt : Timestamp) : Option Report :=
  let size := r.settings.poolSize suggested (TypePair.all base candidate).length
  let pool := r.runPool base candidate (.start size) schedule
  if pool.finished then
    some (r.gather base candidate (pool.workers.map Worker.output) generatedAt)
  else none

end Registry

end SchemaEvolution
