import SchemaEvolution.Check.Pool
import SchemaEvolution.Proofs.Check.Portion

/-! # Schedules do not show in reports

Whatever the schedule, the names that the workers of a pool took are the first ones of the run, each
taken once, and each worker has the output of the names that it checked.  This is an invariant of
pools (`Registry.Accounts`) that each move preserves.  A worker leaves if the run is stopped or if
all names are taken, so a run that is not stopped checks all of them.

A report does not tell how the names were shared out, so it is that of the whole run as far as the
checked names go (`schedules_do_not_show`).
-/

namespace SchemaEvolution.Registry

section Outputs

variable {r : Registry} {base candidate : Snapshot}

theorem extend_eq (output : WorkerOutput) (pair : TypePair) :
    r.extend base candidate output pair =
      ⟨output.findings ++ r.evaluate base candidate (.of pair),
        output.stats + (TypeDiff.of pair).stats, output.processed + 1⟩ := by
  unfold extend
  by_cases unchanged : (TypeDiff.of pair).isEmpty
  · have none : (TypeDiff.of pair).events = [] := List.isEmpty_iff.mp unchanged
    have stats : (TypeDiff.of pair).stats = 0 := by rw [TypeDiff.stats, none]; rfl
    have findings : r.evaluate base candidate (.of pair) = [] := by rw [evaluate, none]; rfl
    rw [if_pos unchanged, findings, stats, List.append_nil, add_zero]
  · rw [if_neg unchanged]

theorem outputOf_concat (pairs : List TypePair) (pair : TypePair) :
    r.outputOf base candidate (pairs ++ [pair]) =
      r.extend base candidate (r.outputOf base candidate pairs) pair := by
  simp [outputOf]

theorem outputOf_eq (pairs : List TypePair) :
    r.outputOf base candidate pairs =
      ⟨pairs.flatMap fun pair => r.evaluate base candidate (.of pair),
        .sum (pairs.map fun pair => (TypeDiff.of pair).stats), pairs.length⟩ := by
  induction pairs using List.reverseRecOn with
  | nil => rfl
  | append_singleton pairs pair ih =>
      rw [outputOf_concat, ih, extend_eq]
      simp [DiffStats.sum_eq]

/-- A report does not show how the names were shared out between workers. -/
theorem gather_outputs (shares : List (List TypePair)) (generatedAt : Timestamp) :
    r.gather base candidate (shares.map (r.outputOf base candidate)) generatedAt =
      r.reportOn base candidate shares.flatten generatedAt := by
  have outputs := funext (@outputOf_eq r base candidate)
  rw [gather, reportOn, outputs]
  simp only [List.flatMap_map, List.map_map, Function.comp_def, examine, DiffStats.sum_eq]
  rw [List.map_flatten, List.sum_flatten, List.map_map, List.length_flatten, List.flatMap_def,
    List.flatMap_def, List.map_flatten, List.flatten_flatten, List.map_map]
  rfl

end Outputs

section Moves

variable (r : Registry) (base candidate : Snapshot)

/-- A worker that took some names has the output of those that it checked. -/
def Holds (w : Worker) (taken : List TypePair) : Prop :=
  match w.station with
  | .checking pair =>
    ∃ checked, taken = checked ++ [pair] ∧ w.output = r.outputOf base candidate checked
  | _ => w.output = r.outputOf base candidate taken

/-- The names that the workers of a pool took account for the state of the pool. -/
structure Accounts (pool : Pool) (taken : List (List TypePair)) : Prop where
  holds : List.Forall₂ (r.Holds base candidate) pool.workers taken
  names : taken.flatten.Perm ((TypePair.all base candidate).take pool.cursor)
  left : ∀ w ∈ pool.workers, w.station = .left →
    pool.cancelled = true ∨ (TypePair.all base candidate).length ≤ pool.cursor

variable {r base candidate}

/-- A worker that moves takes the names that the cursor passes. -/
theorem Holds.move {w : Worker} {taken : List TypePair} (holds : r.Holds base candidate w taken)
    {cancelled : Bool} {cursor later : Nat} {moved : Worker}
    (moves : r.moveWorker base candidate cancelled cursor w = (later, moved)) :
    ∃ more, r.Holds base candidate moved (taken ++ more) ∧
      (TypePair.all base candidate).take later =
        (TypePair.all base candidate).take cursor ++ more ∧
      cursor ≤ later ∧
      (moved.station = .left → w.station = .left ∨ cancelled = true ∨
        (TypePair.all base candidate).length ≤ later) := by
  obtain ⟨station, output⟩ := w
  cases station with
  | looking =>
      obtain ⟨rfl, rfl⟩ := Prod.mk.inj moves
      refine ⟨[], ?_, (List.append_nil _).symm, le_rfl, ?_⟩
      · rw [List.append_nil]
        cases cancelled <;> exact holds
      · cases cancelled with
        | false => intro left; cases left
        | true => exact fun _ => .inr (.inl rfl)
  | taking =>
      cases found : (TypePair.all base candidate)[cursor]? with
      | some pair =>
          simp only [moveWorker, found] at moves
          obtain ⟨rfl, rfl⟩ := Prod.mk.inj moves
          refine ⟨[pair], ⟨taken, rfl, holds⟩, ?_, Nat.le_succ _, fun left => by cases left⟩
          rw [List.take_add_one, found]
          rfl
      | none =>
          simp only [moveWorker, found] at moves
          obtain ⟨rfl, rfl⟩ := Prod.mk.inj moves
          have passed := List.getElem?_eq_none_iff.mp found
          refine ⟨[], ?_, ?_, Nat.le_succ _, fun _ => .inr (.inr (by omega))⟩
          · rw [List.append_nil]
            exact holds
          · rw [List.take_add_one, found]
            rfl
  | checking pair =>
      obtain ⟨rfl, rfl⟩ := Prod.mk.inj moves
      obtain ⟨checked, rfl, output⟩ := holds
      refine ⟨[], ?_, (List.append_nil _).symm, le_rfl, fun left => by cases left⟩
      rw [List.append_nil]
      change r.extend base candidate _ pair = _
      rw [outputOf_concat, ← output]
  | left =>
      obtain ⟨rfl, rfl⟩ := Prod.mk.inj moves
      refine ⟨[], ?_, (List.append_nil _).symm, le_rfl, fun _ => .inl rfl⟩
      rw [List.append_nil]
      exact holds

theorem flatten_set_perm {α : Type} {lists : List (List α)} {i : Nat} {list : List α}
    (here : lists[i]? = some list) (more : List α) :
    (lists.set i (list ++ more)).flatten.Perm (lists.flatten ++ more) := by
  induction lists generalizing i with
  | nil => simp at here
  | cons first rest ih =>
      cases i with
      | zero =>
          obtain rfl := Option.some.inj here
          rw [List.set_cons_zero, List.flatten_cons, List.flatten_cons, List.append_assoc,
            List.append_assoc]
          exact List.perm_append_comm.append_left first
      | succ i =>
          rw [List.set_cons_succ, List.flatten_cons, List.flatten_cons, List.append_assoc]
          exact (ih here).append_left first

theorem movePool_work {pool : Pool} {i : Nat} {w moved : Worker} {later : Nat}
    (found : pool.workers[i]? = some w)
    (moves : r.moveWorker base candidate pool.cancelled pool.cursor w = (later, moved)) :
    r.movePool base candidate pool (.work i) =
      ⟨pool.cancelled, later, pool.workers.set i moved⟩ := by
  simp only [movePool, found, moves]

/-- A move of a pool keeps the accounts. -/
theorem Accounts.move {pool : Pool} {taken : List (List TypePair)}
    (accounts : r.Accounts base candidate pool taken) (move : Move) :
    ∃ taken, r.Accounts base candidate (r.movePool base candidate pool move) taken := by
  cases move with
  | cancel => exact ⟨taken, accounts.holds, accounts.names, fun _ _ _ => .inl rfl⟩
  | work i =>
      cases found : pool.workers[i]? with
      | none =>
          rw [movePool, found]
          exact ⟨taken, accounts⟩
      | some w =>
          obtain ⟨names, here, holds⟩ := exists_getElem?_of_forall₂ accounts.holds found
          rcases moves : r.moveWorker base candidate pool.cancelled pool.cursor w with
            ⟨later, moved⟩
          obtain ⟨more, kept, passed, onward, left⟩ := holds.move moves
          have standing {v : Worker} (inside : v ∈ pool.workers) (gone : v.station = .left) :
              pool.cancelled = true ∨ (TypePair.all base candidate).length ≤ later :=
            (accounts.left v inside gone).imp_right (le_trans · onward)
          rw [movePool_work found moves]
          refine ⟨taken.set i (names ++ more), forall₂_set accounts.holds i kept, ?_, ?_⟩
          · rw [passed]
            exact (flatten_set_perm here more).trans (accounts.names.append_right more)
          · intro v member gone
            rcases List.mem_or_eq_of_mem_set member with inside | rfl
            · exact standing inside gone
            · rcases left gone with before | reason
              · exact standing (List.mem_of_getElem? found) before
              · exact reason

theorem accounts_start (size : Nat) :
    r.Accounts base candidate (.start size) (.replicate size []) := by
  refine ⟨?_, ?_, ?_⟩
  · induction size with
    | zero => exact .nil
    | succ size ih => exact .cons rfl ih
  · simp [Pool.start]
  · intro w member left
    rw [(List.mem_replicate.mp member).2] at left
    cases left

/-- A run of a pool keeps the accounts. -/
theorem Accounts.run {pool : Pool} {taken : List (List TypePair)}
    (accounts : r.Accounts base candidate pool taken) (schedule : List Move) :
    ∃ taken, r.Accounts base candidate (r.runPool base candidate pool schedule) taken := by
  induction schedule generalizing pool taken with
  | nil => exact ⟨taken, accounts⟩
  | cons move rest ih =>
      obtain ⟨taken, accounts⟩ := accounts.move move
      exact ih accounts

end Moves

section Ends

variable {r : Registry} {base candidate : Snapshot} {pool : Pool}

/-- In a pool whose workers have left, they checked the names that they took. -/
theorem Accounts.outputs_of_finished {taken : List (List TypePair)}
    (accounts : r.Accounts base candidate pool taken) (finished : pool.finished = true) :
    pool.workers.map Worker.output = taken.map (r.outputOf base candidate) := by
  apply map_eq_of_forall₂
  have left : ∀ w ∈ pool.workers, w.station = .left := by
    intro w member
    exact beq_iff_eq.mp (List.all_eq_true.mp finished w member)
  refine List.Forall₂.imp ?_ ((List.forall₂_and_left _ _).mpr ⟨left, accounts.holds⟩)
  intro w names ⟨left, holds⟩
  rw [Holds, left] at holds
  exact holds

theorem Accounts.subperm {taken : List (List TypePair)}
    (accounts : r.Accounts base candidate pool taken) :
    taken.flatten.Subperm (TypePair.all base candidate) :=
  ⟨_, accounts.names.symm, List.take_sublist _ _⟩

/-- If nobody stopped the run, all names are taken when some worker leaves. -/
theorem Accounts.perm_of_left {taken : List (List TypePair)}
    (accounts : r.Accounts base candidate pool taken) (running : pool.cancelled = false)
    {w : Worker} (member : w ∈ pool.workers) (left : w.station = .left) :
    taken.flatten.Perm (TypePair.all base candidate) := by
  have passed : (TypePair.all base candidate).length ≤ pool.cursor := by
    rcases accounts.left w member left with stopped | passed
    · rw [running] at stopped
      cases stopped
    · exact passed
  rw [← List.take_of_length_le passed]
  exact accounts.names

theorem cancelled_runPool {schedule : List Move} (unstopped : .cancel ∉ schedule) :
    (r.runPool base candidate pool schedule).cancelled = pool.cancelled := by
  induction schedule generalizing pool with
  | nil => rfl
  | cons move rest ih =>
      rw [List.mem_cons, not_or] at unstopped
      refine (ih unstopped.2).trans ?_
      cases move with
      | cancel => exact absurd rfl unstopped.1
      | work i =>
          cases found : pool.workers[i]? with
          | none => rw [movePool, found]
          | some w => rw [movePool_work found rfl]

theorem length_runPool (schedule : List Move) :
    (r.runPool base candidate pool schedule).workers.length = pool.workers.length := by
  induction schedule generalizing pool with
  | nil => rfl
  | cons move rest ih =>
      refine ih.trans ?_
      cases move with
      | cancel => rfl
      | work i =>
          cases found : pool.workers[i]? with
          | none => rw [movePool, found]
          | some w => rw [movePool_work found rfl, List.length_set]

end Ends

section Progress

/-- How many moves a worker makes before it leaves, if it takes no further name. -/
def movesLeft (w : Worker) : Nat :=
  match w.station with
  | .checking _ => 3
  | .looking => 2
  | .taking => 1
  | .left => 0

/-- No pool moves more often than this. -/
def movesOfPool (base candidate : Snapshot) (pool : Pool) : Nat :=
  3 * ((TypePair.all base candidate).length - pool.cursor) + (pool.workers.map movesLeft).sum

variable {r : Registry} {base candidate : Snapshot}

theorem moveWorker_lt {cancelled : Bool} {cursor later : Nat} {w moved : Worker}
    (here : w.station ≠ .left)
    (moves : r.moveWorker base candidate cancelled cursor w = (later, moved)) :
    3 * ((TypePair.all base candidate).length - later) + movesLeft moved <
      3 * ((TypePair.all base candidate).length - cursor) + movesLeft w := by
  obtain ⟨station, output⟩ := w
  cases station with
  | looking =>
      obtain ⟨rfl, rfl⟩ := Prod.mk.inj moves
      cases cancelled <;> simp [movesLeft]
  | taking =>
      cases found : (TypePair.all base candidate)[cursor]? with
      | some pair =>
          simp only [moveWorker, found] at moves
          obtain ⟨rfl, rfl⟩ := Prod.mk.inj moves
          have inside := (List.getElem?_eq_some_iff.mp found).choose
          simp only [movesLeft]
          omega
      | none =>
          simp only [moveWorker, found] at moves
          obtain ⟨rfl, rfl⟩ := Prod.mk.inj moves
          simp only [movesLeft]
          omega
  | checking pair =>
      obtain ⟨rfl, rfl⟩ := Prod.mk.inj moves
      simp [movesLeft]
  | left => exact absurd rfl here

theorem sum_movesLeft_set {workers : List Worker} {i : Nat} {w : Worker}
    (found : workers[i]? = some w) (moved : Worker) :
    ((workers.set i moved).map movesLeft).sum + movesLeft w =
      (workers.map movesLeft).sum + movesLeft moved := by
  induction workers generalizing i with
  | nil => simp at found
  | cons first rest ih =>
      cases i with
      | zero =>
          obtain rfl := Option.some.inj found
          simp only [List.set_cons_zero, List.map_cons, List.sum_cons]
          omega
      | succ i =>
          have same := ih found
          simp only [List.set_cons_succ, List.map_cons, List.sum_cons]
          omega

/-- A worker that has not left can move, and brings the end of the run nearer. -/
theorem exists_movePool_lt {pool : Pool} (unfinished : pool.finished = false) :
    ∃ i, movesOfPool base candidate (r.movePool base candidate pool (.work i)) <
      movesOfPool base candidate pool := by
  obtain ⟨w, member, here⟩ := List.all_eq_false.mp unfinished
  obtain ⟨i, found⟩ := List.mem_iff_getElem?.mp member
  refine ⟨i, ?_⟩
  rcases moves : r.moveWorker base candidate pool.cancelled pool.cursor w with ⟨later, moved⟩
  rw [movePool_work found moves]
  have lower := moveWorker_lt (by simpa using here) moves
  have sum := sum_movesLeft_set found moved
  simp only [movesOfPool]
  omega

/-- No schedule gets stuck: whatever has happened, the workers can go on until all have left. -/
theorem exists_finished (pool : Pool) :
    ∃ rest : List Nat, (r.runPool base candidate pool (rest.map .work)).finished = true := by
  induction measured : movesOfPool base candidate pool using Nat.strong_induction_on
    generalizing pool with
  | _ moves ih =>
      cases done : pool.finished with
      | true => exact ⟨[], done⟩
      | false =>
          obtain ⟨i, lower⟩ := @exists_movePool_lt r base candidate pool done
          obtain ⟨rest, finished⟩ := ih _ (measured ▸ lower) _ rfl
          exact ⟨i :: rest, finished⟩

end Progress

section Scheduled

variable {r : Registry} {base candidate : Snapshot} {suggested : Nat} {schedule : List Move}
  {generatedAt : Timestamp}

/-- The workers of a run hand over the outputs of some of the names, shared out between them, and of
    all names unless somebody stopped the run. -/
theorem exists_shares {report : Report}
    (made : r.checkScheduled base candidate suggested schedule generatedAt = some report) :
    ∃ shares : List (List TypePair),
      report = r.gather base candidate (shares.map (r.outputOf base candidate)) generatedAt ∧
      shares.flatten.Subperm (TypePair.all base candidate) ∧
      (.cancel ∉ schedule → shares.flatten.Perm (TypePair.all base candidate)) := by
  simp only [checkScheduled] at made
  split at made
  case isFalse => cases made
  case isTrue finished =>
    have start := @accounts_start r base candidate
      (r.settings.poolSize suggested (TypePair.all base candidate).length)
    obtain ⟨shares, accounts⟩ := start.run schedule
    refine ⟨shares, ?_, accounts.subperm, ?_⟩
    · rw [← accounts.outputs_of_finished finished]
      exact (Option.some.inj made).symm
    · intro unstopped
      have size : 0 < (r.runPool base candidate
          (.start (r.settings.poolSize suggested (TypePair.all base candidate).length))
          schedule).workers.length := by
        rw [length_runPool, Pool.start, List.length_replicate, Settings.poolSize]
        omega
      obtain ⟨w, member⟩ := List.exists_mem_of_length_pos size
      exact accounts.perm_of_left (cancelled_runPool unstopped) member
        (beq_iff_eq.mp (List.all_eq_true.mp finished w member))

theorem exists_isSome_checkScheduled :
    ∃ rest : List Nat, (r.checkScheduled base candidate suggested (schedule ++ rest.map .work)
      generatedAt).isSome = true := by
  obtain ⟨rest, finished⟩ := @exists_finished r base candidate (r.runPool base candidate
    (.start (r.settings.poolSize suggested (TypePair.all base candidate).length)) schedule)
  refine ⟨rest, ?_⟩
  rw [runPool, runPool, ← List.foldl_append] at finished
  rw [checkScheduled, runPool, if_pos finished]
  rfl

end Scheduled

end SchemaEvolution.Registry

namespace SchemaEvolution

/-- However the names of a run are shared out between workers, whatever order they are checked in
    and whenever the run is stopped, the report is that of the whole run as far as the checked names
    go.  Every schedule of a pool shares out some of the names, and all of them if nobody stops the
    run; and no schedule keeps a run from ending. -/
theorem schedules_do_not_show {base candidate : Snapshot} {settings : Settings}
    (builtBase : base.IsBuilt) (builtCandidate : candidate.IsBuilt)
    (valid : settings.validate = .ok ()) :
    ∃ r, Registry.ofSettings settings = .ok r ∧ ∀ generatedAt,
      (∀ shares : List (List TypePair), shares.flatten.Subperm (TypePair.all base candidate) →
        (r.gather base candidate (shares.map (r.outputOf base candidate)) generatedAt).Restricts
          (r.check base candidate generatedAt) (TypePair.all base candidate) shares.flatten) ∧
      ∀ suggested schedule,
        (∀ report,
          r.checkScheduled base candidate suggested schedule generatedAt = some report →
          (∃ processed, processed.Subperm (TypePair.all base candidate) ∧
            report.Restricts (r.check base candidate generatedAt) (TypePair.all base candidate)
              processed) ∧
          (.cancel ∉ schedule → report = r.check base candidate generatedAt)) ∧
        ∃ rest : List Nat, (r.checkScheduled base candidate suggested
          (schedule ++ rest.map .work) generatedAt).isSome = true := by
  obtain ⟨r, ok⟩ := Registry.exists_ofSettings valid
  refine ⟨r, ok, ?_⟩
  intro generatedAt
  have restricts (shares : List (List TypePair))
      (part : shares.flatten.Subperm (TypePair.all base candidate)) :
      (r.gather base candidate (shares.map (r.outputOf base candidate)) generatedAt).Restricts
        (r.check base candidate generatedAt) (TypePair.all base candidate) shares.flatten := by
    rw [Registry.gather_outputs]
    exact Registry.reportOn_restricts (Registry.nodup_rules ok) builtBase.valid
      builtCandidate.valid part generatedAt
  refine ⟨restricts, ?_⟩
  intro suggested schedule
  refine ⟨?_, Registry.exists_isSome_checkScheduled⟩
  intro report made
  obtain ⟨shares, rfl, part, whole⟩ := Registry.exists_shares made
  refine ⟨⟨shares.flatten, part, restricts shares part⟩, ?_⟩
  intro unstopped
  apply (restricts shares part).whole
  intro pair member
  exact (whole unstopped).mem_iff.mpr member

/-- A message and an enum, of which the message gets a field of another type and the enum loses a
    value. -/
def lampsBefore : Snapshot where
  label := "before"
  version := none
  types := [
    .enum ⟨"acme.Color", .proto3, [⟨0, "WHITE"⟩, ⟨1, "RED"⟩], .none⟩,
    .message ⟨"acme.Lamp", .proto3, [⟨1, "watts", .scalar .int64, .singular, false, none⟩], .none⟩]

def lampsAfter : Snapshot where
  label := "after"
  version := none
  types := [
    .enum ⟨"acme.Color", .proto3, [⟨0, "WHITE"⟩], .none⟩,
    .message ⟨"acme.Lamp", .proto3, [⟨1, "watts", .scalar .string, .singular, false, none⟩], .none⟩]

def lampPair : TypePair :=
  ⟨"acme.Lamp", lampsBefore.get? "acme.Lamp", lampsAfter.get? "acme.Lamp"⟩

/-- The second worker takes the first name but checks it last. -/
def overtaking : List Move :=
  [1, 1, 0, 0, 0, 0, 0, 1, 1, 1].map .work

/-- The overtaken run reports what any run does, and a run that was stopped after the message
    reports what is wrong with the message. -/
theorem lamps_are_checked_in_portions :
    ∃ r, Registry.ofSettings {} = .ok r ∧
      r.checkScheduled lampsBefore lampsAfter 2 overtaking .epoch =
        some (r.check lampsBefore lampsAfter .epoch) ∧
      (r.gather lampsBefore lampsAfter [r.outputOf lampsBefore lampsAfter [lampPair]]
        .epoch).findings.map Finding.path = ["acme.Lamp.watts"] ∧
      (r.gather lampsBefore lampsAfter [r.outputOf lampsBefore lampsAfter [lampPair]]
        .epoch).verdict = .unknown := by
  have builtBefore : lampsBefore.IsBuilt :=
    ⟨⟨"before", none, lampsBefore.types⟩, by decide +kernel⟩
  have builtAfter : lampsAfter.IsBuilt := ⟨⟨"after", none, lampsAfter.types⟩, by decide +kernel⟩
  have valid : ({} : Settings).validate = .ok () := rfl
  obtain ⟨r, ok, reports⟩ := schedules_do_not_show builtBefore builtAfter valid
  obtain rfl := Except.ok.inj (Registry.ofSettings_default.symm.trans ok)
  obtain ⟨portions, schedules⟩ := reports .epoch
  have finished : (Registry.default.checkScheduled lampsBefore lampsAfter 2 overtaking
      .epoch).isSome = true := by decide +kernel
  obtain ⟨report, made⟩ := Option.isSome_iff_exists.mp finished
  have part : [lampPair].Subperm (TypePair.all lampsBefore lampsAfter) :=
    List.singleton_subperm_iff.mpr (by decide +kernel)
  have portion := portions [[lampPair]] part
  refine ⟨_, ok, ?_, ?_, ?_⟩
  · rw [made, ((schedules 2 overtaking).1 report made).2 (by decide)]
  · refine (congrArg (List.map Finding.path) portion.findings).trans ?_
    decide +kernel
  · exact portion.unknown.mpr (by decide +kernel)

end SchemaEvolution
