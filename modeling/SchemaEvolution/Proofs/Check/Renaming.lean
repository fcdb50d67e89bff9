import SchemaEvolution.Proofs.Check.Silence
import SchemaEvolution.Proofs.Schema.Renaming

/-! # Reports on renamed fields

Names of fields are not on the wire, and no rule looks at them alone: a run over a snapshot and a
renaming of it finds nothing, whatever names trade places.  That something changed shows in the
counts and in the step that is required.
-/

namespace SchemaEvolution

/-- A field of another name and the same type is no other field. -/
theorem Field.Renamed.rebinds_eq_false {f g : Field} (renamed : f.Renamed g) :
    f.rebinds g = false := by
  have family : g.type.sameFamily g.type = true := by
    cases g.type <;> simp [FieldType.sameFamily]
  simp [rebinds, FieldType.wireRelated, renamed.type_eq, family]

/-- No rule fires on a field that gets another name. -/
theorem ChangeEvent.Renames.outcome?_eq_none {event : ChangeEvent} (renames : event.Renames)
    (ctx : RuleContext) (id : RuleId) : id.outcome? ctx event = none := by
  cases renames with
  | @message old new renamed =>
      have count := renamed.fields.length_eq
      cases id <;> simp [Rule.grown, Rule.dropped, count]
  | @field old new f g renamed =>
      have kept := renamed.rebinds_eq_false
      cases id <;> simp [kept, Field.typeOutcome?, Rule.takesReservedName, renamed.type_eq,
        renamed.cardinality_eq, renamed.default_eq]

namespace DiffStats

/-- Counts of nothing but modifications. -/
def ModificationsOnly (s : DiffStats) : Prop := s.added = 0 ∧ s.removed = 0

theorem ModificationsOnly.add {a b : DiffStats} (left : a.ModificationsOnly)
    (right : b.ModificationsOnly) : (a + b).ModificationsOnly :=
  ⟨Nat.add_eq_zero_iff.mpr ⟨left.1, right.1⟩, Nat.add_eq_zero_iff.mpr ⟨left.2, right.2⟩⟩

theorem modificationsOnly_ofEvents {events : List ChangeEvent}
    (each : ∀ event ∈ events, (ofEvent event).ModificationsOnly) :
    (ofEvents events).ModificationsOnly := by
  induction events with
  | nil => exact ⟨rfl, rfl⟩
  | cons event rest ih =>
      obtain ⟨first, later⟩ := List.forall_mem_cons.mp each
      exact first.add (ih later)

theorem modificationsOnly_sum {stats : List DiffStats} (each : ∀ s ∈ stats, s.ModificationsOnly) :
    (sum stats).ModificationsOnly := by
  induction stats with
  | nil => exact ⟨rfl, rfl⟩
  | cons s rest ih =>
      obtain ⟨first, later⟩ := List.forall_mem_cons.mp each
      exact first.add (ih later)

end DiffStats

theorem ChangeEvent.Renames.modificationsOnly {event : ChangeEvent} (renames : event.Renames) :
    (DiffStats.ofEvent event).ModificationsOnly := by
  cases renames <;> exact ⟨rfl, rfl⟩

section Snapshots

variable {base candidate : Snapshot} (renamed : base.Renamed candidate) (validBase : base.Valid)
  (validCandidate : candidate.Valid)
include renamed validCandidate

/-- Nothing happens to a snapshot that is renamed but that fields get other names. -/
theorem Happens.renames {name : String} {event : ChangeEvent}
    (happens : Happens base candidate name event) : event.Renames := by
  cases happens with
  | typeAdded after fresh =>
      obtain ⟨t, inside, counterpart⟩ := exists_of_mem_right renamed after
      exact absurd counterpart.kind_eq (fresh t inside counterpart.name_eq)
  | typeRemoved before gone =>
      obtain ⟨u, inside, counterpart⟩ := exists_of_mem_left renamed before
      exact absurd counterpart.kind_eq.symm (gone u inside counterpart.name_eq.symm)
  | message before after same changed =>
      have counterpart := renamed.message validCandidate before after same
      rw [counterpart.changes_eq_nil]
      exact .message counterpart
  | field before after same happens =>
      exact (renamed.message validCandidate before after same).renames_of_happens
        (validCandidate.messages _ after).sound happens
  | @enum old new before after same changed =>
      obtain rfl := renamed.enum validCandidate before after same
      have alike : old.Alike old := ⟨rfl, rfl, .refl _, .refl _⟩
      rcases changed with changed | ⟨event, happens⟩
      · exact absurd alike.changes_eq_nil changed
      · exact absurd happens (alike.not_happens (validCandidate.enums _ after).sound)
  | @value old new before after same _ happens =>
      obtain rfl := renamed.enum validCandidate before after same
      have alike : old.Alike old := ⟨rfl, rfl, .refl _, .refl _⟩
      exact absurd happens (alike.not_happens (validCandidate.enums _ after).sound)

include validBase

/-- Nothing happens exactly if every field keeps its name. -/
theorem Snapshot.Renamed.nothing_iff :
    (∀ name event, ¬ Happens base candidate name event) ↔ base.types = candidate.types := by
  constructor
  · intro nothing
    refine eq_of_forall₂ renamed fun t before u after counterpart => ?_
    cases counterpart with
    | enum => rfl
    | message counterpart =>
        rw [counterpart.eq_of_nothing fun event happens =>
          nothing _ _ (.field before after counterpart.name happens)]
  · intro same
    rw [happens_nothing_iff validBase validCandidate]
    intro name
    have found : base.get? name = candidate.get? name := by rw [get?, get?, same]
    rw [found]
    exact Snapshot.Alike.refl candidate name

theorem Registry.stats_of_renamed (r : Registry) (generatedAt : Timestamp) :
    (r.check base candidate generatedAt).stats.ModificationsOnly := by
  rw [check_stats]
  refine DiffStats.modificationsOnly_sum (List.forall_mem_map.mpr fun pair member => ?_)
  refine DiffStats.modificationsOnly_ofEvents fun event emitted => ?_
  have happens := (happens_iff_mem_events validBase validCandidate).mpr
    ⟨pair, member, rfl, emitted⟩
  exact (happens.renames renamed validCandidate).modificationsOnly

theorem Registry.findings_of_renamed {r : Registry} (distinct : r.rules.Nodup)
    (generatedAt : Timestamp) : (r.check base candidate generatedAt).findings = [] := by
  rw [List.eq_nil_iff_forall_not_mem]
  intro f reported
  obtain ⟨-, name, event, happens, fires⟩ :=
    (exists_mem_findings_iff distinct validBase validCandidate generatedAt).mp ⟨f, reported, rfl⟩
  rw [(happens.renames renamed validCandidate).outcome?_eq_none] at fires
  cases fires

theorem Registry.requiredBump_of_renamed {r : Registry} (distinct : r.rules.Nodup)
    (generatedAt : Timestamp) :
    (r.check base candidate generatedAt).requiredBump =
      if base.types = candidate.types then .none else .patch := by
  have changed := hasChanges_check_iff (r := r) validBase validCandidate generatedAt
  rw [check_requiredBump, findings_of_renamed renamed validBase validCandidate distinct,
    (stats_of_renamed renamed validBase validCandidate r generatedAt).1]
  by_cases kept : base.types = candidate.types
  · have nothing := (renamed.nothing_iff validBase validCandidate).mpr kept
    have unchanged : (r.check base candidate generatedAt).stats.hasChanges = false := by
      rw [← Bool.not_eq_true, changed]
      intro ⟨name, event, happens⟩
      exact nothing name event happens
    rw [if_pos kept, unchanged]
    rfl
  · have something : (r.check base candidate generatedAt).stats.hasChanges = true := by
      rw [changed]
      by_contra nothing
      refine kept ((renamed.nothing_iff validBase validCandidate).mp fun name event happens => ?_)
      exact nothing ⟨name, event, happens⟩
    rw [if_neg kept, something]
    rfl

end Snapshots

/-- A report of a run that saw at most that fields got other names. -/
structure Report.SeesNamesOnly (report : Report) (changed : Prop) : Prop where
  complete : report.complete = true
  findings : report.findings = []
  verdict : report.verdict = .pass
  added : report.stats.added = 0
  removed : report.stats.removed = 0
  patch : changed → report.requiredBump = .patch
  none : ¬ changed → report.requiredBump = .none

/-- Whatever names fields get, and whichever of them trade places, a run finds nothing and requires
    a patch, or no step at all if every field keeps its name. -/
theorem renamed_fields_are_invisible {base candidate : Snapshot} (builtBase : base.IsBuilt)
    (builtCandidate : candidate.IsBuilt) (renamed : base.Renamed candidate) {settings : Settings}
    (valid : settings.validate = .ok ()) :
    ∃ r, Registry.ofSettings settings = .ok r ∧ ∀ generatedAt,
      (r.check base candidate generatedAt).SeesNamesOnly (base.types ≠ candidate.types) := by
  obtain ⟨r, ok⟩ := Registry.exists_ofSettings valid
  refine ⟨r, ok, fun generatedAt => ?_⟩
  have distinct := Registry.nodup_rules ok
  have findings := Registry.findings_of_renamed renamed builtBase.valid builtCandidate.valid
    distinct generatedAt
  have stats := Registry.stats_of_renamed renamed builtBase.valid builtCandidate.valid r generatedAt
  have bump := Registry.requiredBump_of_renamed renamed builtBase.valid builtCandidate.valid
    distinct generatedAt
  refine
    { complete := Registry.check_complete generatedAt
      findings
      verdict := ?_
      added := stats.1
      removed := stats.2
      patch := fun changed => by rw [bump, if_neg changed]
      none := fun kept => by rw [bump, if_pos (not_not.mp kept)] }
  rw [Registry.check_verdict, findings]
  rfl

/-- Accounts and notes; the names of three fields of an account are open. -/
def accountTypes (first second third : String) : List TypeDef := [
  .message ⟨"acme.Account", .proto2,
    [{ number := 1, name := first, type := .scalar .int32, default := some "7" },
      { number := 2, name := second, type := .message "acme.Owner", cardinality := .required },
      { number := 4, name := third, type := .group "acme.Note", cardinality := .repeated }],
    ⟨[⟨3, 3⟩], NameSet.empty.insert "key"⟩⟩,
  .message ⟨"acme.Note", .proto2, [], .none⟩,
  .message ⟨"acme.Owner", .proto2, [], .none⟩]

def accountsBefore : Snapshot := ⟨"before", none, accountTypes "id" "owner" "note"⟩

/-- The accounts with the three names passed on from tag to tag. -/
def accountsAfter : Snapshot := ⟨"after", none, accountTypes "owner" "note" "id"⟩

theorem rotated_names_require_a_patch :
    ∃ r, Registry.ofSettings { treatAdvisoryAsError := true } = .ok r ∧
      accountsBefore.Renamed accountsAfter ∧
      (r.check accountsBefore accountsAfter .epoch).SeesNamesOnly
        (accountsBefore.types ≠ accountsAfter.types) ∧
      (r.check accountsBefore accountsAfter .epoch).requiredBump = .patch ∧
      (r.check accountsBefore accountsAfter .epoch).stats.modified = 3 := by
  have builtBase : accountsBefore.IsBuilt :=
    ⟨⟨"before", none, accountsBefore.types⟩, by decide +kernel⟩
  have builtCandidate : accountsAfter.IsBuilt :=
    ⟨⟨"after", none, accountsAfter.types⟩, by decide +kernel⟩
  have renamed : accountsBefore.Renamed accountsAfter :=
    .cons (.message ⟨rfl, rfl, rfl, .cons rfl (.cons rfl (.cons rfl .nil))⟩)
      (.cons (.message ⟨rfl, rfl, rfl, .nil⟩) (.cons (.message ⟨rfl, rfl, rfl, .nil⟩) .nil))
  have valid : ({ treatAdvisoryAsError := true } : Settings).validate = .ok () := by rfl
  obtain ⟨r, ok, sees⟩ := renamed_fields_are_invisible builtBase builtCandidate renamed valid
  exact ⟨r, ok, renamed, sees .epoch, (sees .epoch).patch (by decide +kernel), by
    rw [Registry.check_stats]
    decide +kernel⟩

end SchemaEvolution
