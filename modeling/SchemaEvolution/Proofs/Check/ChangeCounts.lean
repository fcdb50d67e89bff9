import SchemaEvolution.Proofs.Check.Scheduling
import SchemaEvolution.Proofs.Check.Tally

/-! # What a run counts

A run counts name by name.  The sum of the names is that of the pairs of definitions that the two
snapshots share, beside the names that only one of them has (`Registry.check_stats_eq_sum`).
Additions and removals are one function of two snapshots, taken in either order, and modifications
are the same in both, so `change_counts_are_exact` also says what the opposite run counts.
-/

namespace SchemaEvolution

namespace Snapshot

/-- What two snapshots define under one name, side by side. -/
def shared (base candidate : Snapshot) : Finset (TypeDef × TypeDef) :=
  (base.types.toFinset ×ˢ candidate.types.toFinset).filter fun pair => pair.1.name = pair.2.name

/-- The types of unchanged kind, before and after. -/
def keptTypes (base candidate : Snapshot) : Finset (TypeDef × TypeDef) :=
  (base.shared candidate).filter fun pair => pair.1.kind = pair.2.kind

/-- The names of which the kind changed. -/
def recast (base candidate : Snapshot) : Finset String :=
  ((base.shared candidate).filter fun pair => ¬ pair.1.kind = pair.2.kind).image (·.1.name)

/-- How much the candidate has that the base has not: names, names of another kind, and members of
    types of unchanged kind. -/
def additions (base candidate : Snapshot) : Nat :=
  (candidate.names.toFinset \ base.names.toFinset).card + (base.recast candidate).card +
    ∑ pair ∈ base.keptTypes candidate, (pair.2.liveNumbers \ pair.1.liveNumbers).card

/-- How much both snapshots have that differs: types of unchanged kind, and members of these. -/
def modifications (base candidate : Snapshot) : Nat :=
  ((base.keptTypes candidate).filter fun pair => pair.1.Differs pair.2).card +
    ∑ pair ∈ base.keptTypes candidate, (pair.1.altered pair.2).card

section Shared

variable {base candidate : Snapshot}

theorem mem_shared {pair : TypeDef × TypeDef} :
    pair ∈ base.shared candidate ↔
      (pair.1 ∈ base.types ∧ pair.2 ∈ candidate.types) ∧ pair.1.name = pair.2.name := by
  simp [shared]

/-- A shared name has one definition on either side. -/
theorem injOn_name_shared (validBase : base.Valid) (validCandidate : candidate.Valid) :
    Set.InjOn (·.1.name) (base.shared candidate : Set (TypeDef × TypeDef)) := by
  intro pair member other memberOther same
  obtain ⟨⟨before, after⟩, name⟩ := mem_shared.mp member
  obtain ⟨⟨beforeOther, afterOther⟩, nameOther⟩ := mem_shared.mp memberOther
  exact Prod.ext (validBase.eq_of_name before beforeOther same)
    (validCandidate.eq_of_name after afterOther (name.symm.trans (same.trans nameOther)))

theorem card_recast (validBase : base.Valid) (validCandidate : candidate.Valid) :
    (base.recast candidate).card =
      ((base.shared candidate).filter fun pair => ¬ pair.1.kind = pair.2.kind).card :=
  Finset.card_image_of_injOn
    ((injOn_name_shared validBase validCandidate).mono (Finset.filter_subset _ _))

/-- Under a name that both snapshots have, they share the two definitions and nothing else. -/
theorem shared_filter_name (validBase : base.Valid) (validCandidate : candidate.Valid)
    {name : String} {old new : TypeDef} (before : base.get? name = some old)
    (after : candidate.get? name = some new) :
    (base.shared candidate).filter (fun pair => pair.1.name = name) = {(old, new)} := by
  obtain ⟨inBase, nameOld⟩ := mem_of_get? before
  obtain ⟨inCandidate, nameNew⟩ := mem_of_get? after
  have member : (old, new) ∈ base.shared candidate :=
    mem_shared.mpr ⟨⟨inBase, inCandidate⟩, nameOld.trans nameNew.symm⟩
  ext pair
  rw [Finset.mem_filter, Finset.mem_singleton]
  constructor
  · rintro ⟨other, named⟩
    exact injOn_name_shared validBase validCandidate other member (named.trans nameOld.symm)
  · rintro rfl
    exact ⟨member, nameOld⟩

/-- Under a name that one of the snapshots lacks, they share nothing. -/
theorem shared_filter_name_eq_empty {name : String}
    (missing : base.get? name = none ∨ candidate.get? name = none) :
    (base.shared candidate).filter (fun pair => pair.1.name = name) = ∅ := by
  rw [Finset.filter_eq_empty_iff]
  intro pair member named
  obtain ⟨⟨before, after⟩, same⟩ := mem_shared.mp member
  rcases missing with missing | missing
  · exact get?_eq_none_iff.mp missing _ before named
  · exact get?_eq_none_iff.mp missing _ after (same.symm.trans named)

theorem mem_names_iff {s : Snapshot} {name : String} : name ∈ s.names ↔ s.get? name ≠ none := by
  rw [Ne, get?_eq_none_iff]
  simp [names]

end Shared

section Exchange

variable {base candidate : Snapshot}

theorem recast_subset_swap : base.recast candidate ⊆ candidate.recast base := by
  intro name member
  simp only [recast, Finset.mem_image, Finset.mem_filter, mem_shared, Prod.exists] at member ⊢
  obtain ⟨old, new, ⟨⟨⟨before, after⟩, same⟩, kind⟩, named⟩ := member
  exact ⟨new, old, ⟨⟨⟨after, before⟩, same.symm⟩, Ne.symm kind⟩, same.symm.trans named⟩

theorem recast_comm : candidate.recast base = base.recast candidate :=
  recast_subset_swap.antisymm recast_subset_swap

theorem mem_keptTypes_swap (pair : TypeDef × TypeDef) :
    pair ∈ base.keptTypes candidate ↔ Equiv.prodComm _ _ pair ∈ candidate.keptTypes base := by
  simp [keptTypes, mem_shared, and_comm, eq_comm]

theorem sum_keptTypes_comm (count : TypeDef → TypeDef → Nat) :
    ∑ pair ∈ candidate.keptTypes base, count pair.2 pair.1 =
      ∑ pair ∈ base.keptTypes candidate, count pair.1 pair.2 :=
  (Finset.sum_equiv (Equiv.prodComm _ _) mem_keptTypes_swap fun _ _ => rfl).symm

/-- What differs differs in either direction. -/
theorem modifications_comm : candidate.modifications base = base.modifications candidate := by
  unfold modifications
  rw [Finset.card_filter, Finset.card_filter,
    sum_keptTypes_comm fun old new => if new.Differs old then 1 else 0,
    sum_keptTypes_comm fun old new => (new.altered old).card]
  congr 1
  · exact Finset.sum_congr rfl fun pair _ => if_congr ⟨.symm, .symm⟩ rfl rfl
  · exact Finset.sum_congr rfl fun pair _ => by rw [TypeDef.altered_comm]

end Exchange

end Snapshot

section Names

variable {base candidate : Snapshot} (validBase : base.Valid) (validCandidate : candidate.Valid)
include validBase validCandidate

/-- The events of a name are those between its two definitions, or tell that only one snapshot has
    it. -/
theorem TypePair.ofEvents_eq (name : String) :
    DiffStats.ofEvents (ChangeEvent.ofTypes (base.get? name) (candidate.get? name)) =
      .tally (candidate.names.toFinset \ base.names.toFinset)
        (base.names.toFinset \ candidate.names.toFinset) ∅ name +
      ∑ pair ∈ base.shared candidate with pair.1.name = name,
        DiffStats.ofEvents (ChangeEvent.ofTypes (some pair.1) (some pair.2)) := by
  simp only [DiffStats.tally, Finset.mem_sdiff, List.mem_toFinset, Snapshot.mem_names_iff]
  cases before : base.get? name with
  | none =>
      rw [Snapshot.shared_filter_name_eq_empty (.inl before)]
      cases after : candidate.get? name <;> rfl
  | some old =>
      cases after : candidate.get? name with
      | none =>
          rw [Snapshot.shared_filter_name_eq_empty (.inr after)]
          rfl
      | some new =>
          rw [Snapshot.shared_filter_name validBase validCandidate before after,
            Finset.sum_singleton]
          exact (zero_add _).symm

/-- What happened under the shared names, added up. -/
theorem Snapshot.sum_ofEvents_shared :
    ∑ pair ∈ base.shared candidate,
        DiffStats.ofEvents (ChangeEvent.ofTypes (some pair.1) (some pair.2)) =
      ⟨(base.recast candidate).card +
          ∑ pair ∈ base.keptTypes candidate, (pair.2.liveNumbers \ pair.1.liveNumbers).card,
        (base.recast candidate).card +
          ∑ pair ∈ base.keptTypes candidate, (pair.1.liveNumbers \ pair.2.liveNumbers).card,
        base.modifications candidate⟩ := by
  have ofRecast : ∀ pair ∈ (base.shared candidate).filter fun pair => ¬ pair.1.kind = pair.2.kind,
      DiffStats.ofEvents (ChangeEvent.ofTypes (some pair.1) (some pair.2)) = ⟨1, 1, 0⟩ :=
    fun pair member => TypeDef.ofEvents_ofTypes_of_ne (Finset.mem_filter.mp member).2
  have ofKept : ∀ pair ∈ base.keptTypes candidate,
      DiffStats.ofEvents (ChangeEvent.ofTypes (some pair.1) (some pair.2)) =
        ⟨(pair.2.liveNumbers \ pair.1.liveNumbers).card,
          (pair.1.liveNumbers \ pair.2.liveNumbers).card,
          (if pair.1.Differs pair.2 then 1 else 0) + (pair.1.altered pair.2).card⟩ := by
    intro pair member
    obtain ⟨inShared, kind⟩ := Finset.mem_filter.mp member
    obtain ⟨⟨before, after⟩, -⟩ := mem_shared.mp inShared
    exact TypeDef.ofEvents_ofTypes validBase validCandidate before after kind
  -- Pairs of another kind do not count their members, so the two parts are summed apart.
  rw [← Finset.sum_filter_not_add_sum_filter (base.shared candidate)
    fun pair => pair.1.kind = pair.2.kind, Finset.sum_congr rfl ofRecast, ← keptTypes,
    Finset.sum_congr rfl ofKept, DiffStats.sum_mk, DiffStats.sum_mk, DiffStats.mk_add_mk,
    card_recast validBase validCandidate, modifications]
  simp only [Finset.sum_add_distrib, Finset.sum_const_zero, zero_add, ← Finset.card_filter,
    ← Finset.card_eq_sum_ones]

end Names

namespace Registry

variable {r : Registry} {base candidate : Snapshot} {processed : List TypePair}
  {generatedAt : Timestamp}

/-- A whole run counts the names that only one snapshot has, and what happened under the others. -/
theorem check_stats_eq_sum (validBase : base.Valid) (validCandidate : candidate.Valid) :
    (r.check base candidate generatedAt).stats =
      ⟨(candidate.names.toFinset \ base.names.toFinset).card,
        (base.names.toFinset \ candidate.names.toFinset).card, 0⟩ +
      ∑ pair ∈ base.shared candidate,
        DiffStats.ofEvents (ChangeEvent.ofTypes (some pair.1) (some pair.2)) := by
  have ofNames : ∀ pair ∈ base.shared candidate,
      pair.1.name ∈ base.names.toFinset ∪ candidate.names.toFinset := by
    intro pair member
    rw [Finset.mem_union, List.mem_toFinset]
    exact .inl (List.mem_map_of_mem (Snapshot.mem_shared.mp member).1.1)
  calc (r.check base candidate generatedAt).stats
      = ∑ name ∈ base.names.toFinset ∪ candidate.names.toFinset,
          DiffStats.ofEvents (ChangeEvent.ofTypes (base.get? name) (candidate.get? name)) := by
        rw [check_stats, DiffStats.sum_eq, TypePair.all, List.map_map,
          Sorted.sum_map_sortDistinct nameBefore_isStrictOrder, List.toFinset_append]
        rfl
    _ = _ := Finset.sum_congr rfl fun name _ =>
          TypePair.ofEvents_eq validBase validCandidate name
    _ = _ := by
        rw [Finset.sum_add_distrib, Finset.sum_fiberwise_of_maps_to ofNames,
          DiffStats.sum_tally (Finset.sdiff_subset.trans Finset.subset_union_right)
            (Finset.sdiff_subset.trans Finset.subset_union_left) (Finset.empty_subset _)]
        rfl

/-- A whole run counts additions, what the opposite step would add, and modifications. -/
theorem check_stats_eq_counts (validBase : base.Valid) (validCandidate : candidate.Valid) :
    (r.check base candidate generatedAt).stats =
      ⟨base.additions candidate, candidate.additions base, base.modifications candidate⟩ := by
  have gone : candidate.additions base =
      (base.names.toFinset \ candidate.names.toFinset).card + (base.recast candidate).card +
        ∑ pair ∈ base.keptTypes candidate, (pair.1.liveNumbers \ pair.2.liveNumbers).card := by
    rw [Snapshot.additions, Snapshot.recast_comm,
      Snapshot.sum_keptTypes_comm fun old new => (old.liveNumbers \ new.liveNumbers).card]
  rw [check_stats_eq_sum validBase validCandidate,
    Snapshot.sum_ofEvents_shared validBase validCandidate, DiffStats.mk_add_mk, gone,
    Snapshot.additions, Nat.add_assoc, Nat.add_assoc, Nat.zero_add]

/-- A run that is complete has counted what the whole run counts. -/
theorem reportOn_stats_of_complete (part : processed.Subperm (TypePair.all base candidate))
    (complete : (r.reportOn base candidate processed generatedAt).complete = true) :
    (r.reportOn base candidate processed generatedAt).stats =
      (r.check base candidate generatedAt).stats := by
  have lengths : processed.length = (TypePair.all base candidate).length := beq_iff_eq.mp complete
  have perm := part.perm_of_length_le lengths.ge
  rw [check_stats, DiffStats.sum_eq, ← (perm.map _).sum_eq]
  simp [reportOn, Report.assemble, examine, Function.comp_def, DiffStats.sum_eq]

end Registry

/-- A complete report, in whatever order its names were checked, counts as added what the candidate
    alone has, as removed what the base alone has, and as modified what both have and differs.  So
    the opposite run counts additions as removals and removals as additions. -/
theorem change_counts_are_exact {base candidate : Snapshot} (builtBase : base.IsBuilt)
    (builtCandidate : candidate.IsBuilt) (r : Registry) (generatedAt : Timestamp) :
    let stats := (r.check base candidate generatedAt).stats
    (r.check base candidate generatedAt).complete = true ∧
      stats.added = base.additions candidate ∧
      stats.removed = candidate.additions base ∧
      stats.modified = base.modifications candidate ∧
      (∀ suggested schedule report,
        r.checkScheduled base candidate suggested schedule generatedAt = some report →
          report.complete = true → report.stats = stats) ∧
      (r.check candidate base generatedAt).stats =
        ⟨stats.removed, stats.added, stats.modified⟩ := by
  intro stats
  have forth : stats = _ :=
    Registry.check_stats_eq_counts builtBase.valid builtCandidate.valid
  have back : (r.check candidate base generatedAt).stats = _ :=
    Registry.check_stats_eq_counts builtCandidate.valid builtBase.valid
  refine ⟨Registry.check_complete generatedAt, by rw [forth], by rw [forth], by rw [forth], ?_, ?_⟩
  · intro suggested schedule report made complete
    obtain ⟨shares, rfl, part, -⟩ := Registry.exists_shares made
    rw [Registry.gather_outputs] at complete ⊢
    exact Registry.reportOn_stats_of_complete part complete
  · rw [back, forth, Snapshot.modifications_comm]

/-- A garden with a bed, a path and a tree, and the seasons to choose from. -/
def gardenBefore : Snapshot where
  label := "before"
  version := none
  types := [
    .enum ⟨"acme.Bed", .proto3, [⟨0, "NONE"⟩, ⟨1, "ROSES"⟩], .none⟩,
    .message ⟨"acme.Path", .proto3, [⟨1, "width", .scalar .int32, .singular, false, none⟩], .none⟩,
    .enum ⟨"acme.Season", .proto3, [⟨0, "SPRING"⟩, ⟨1, "SUMMER"⟩], .none⟩,
    .message ⟨"acme.Tree", .proto3, [
      ⟨1, "kind", .scalar .string, .singular, false, none⟩,
      ⟨2, "height", .scalar .int32, .singular, false, none⟩,
      ⟨4, "age", .scalar .int32, .singular, false, none⟩], ⟨[⟨8, 9⟩, ⟨8, 9⟩], .empty⟩⟩]

/-- The garden with a well in place of the path, a bed that is never empty, a season that is a
    message, and a tree that has an owner and whose size is told in place of its height. -/
def gardenAfter : Snapshot where
  label := "after"
  version := none
  types := [
    .enum ⟨"acme.Bed", .proto2, [⟨3, "LILIES"⟩, ⟨1, "ROSES"⟩, ⟨2, "TULIPS"⟩], .none⟩,
    .message ⟨"acme.Season", .proto3, [⟨1, "name", .scalar .string, .singular, false, none⟩],
      .none⟩,
    .message ⟨"acme.Tree", .proto3, [
      ⟨4, "age", .scalar .int32, .singular, false, none⟩,
      ⟨2, "size", .scalar .int64, .singular, false, none⟩,
      ⟨3, "owner", .scalar .string, .singular, false, none⟩], ⟨[⟨8, 9⟩], .empty⟩⟩,
    .message ⟨"acme.Well", .proto3, [⟨1, "depth", .scalar .int32, .singular, false, none⟩], .none⟩]

/-- One worker checks all names before the other one begins. -/
def oneAfterTheOther : List Move := (List.replicate 17 0 ++ List.replicate 2 1).map .work

/-- The enum changed in two ways and counts once; the members of a name of another kind, and those
    of a name that comes or goes, do not count. -/
theorem garden_changes_are_counted :
    gardenBefore.additions gardenAfter = 5 ∧ gardenAfter.additions gardenBefore = 4 ∧
      gardenBefore.modifications gardenAfter = 2 ∧
      (Registry.default.check gardenBefore gardenAfter .epoch).stats = ⟨5, 4, 2⟩ ∧
      (Registry.default.check gardenAfter gardenBefore .epoch).stats = ⟨4, 5, 2⟩ ∧
      ∃ report, Registry.default.checkScheduled gardenBefore gardenAfter 2 oneAfterTheOther .epoch =
        some report ∧ report.stats = ⟨5, 4, 2⟩ := by
  have builtBefore : gardenBefore.IsBuilt :=
    ⟨⟨"before", none, gardenBefore.types⟩, by decide +kernel⟩
  have builtAfter : gardenAfter.IsBuilt :=
    ⟨⟨"after", none, gardenAfter.types⟩, by decide +kernel⟩
  obtain ⟨-, added, removed, modified, scheduled, opposite⟩ :=
    change_counts_are_exact builtBefore builtAfter .default .epoch
  have additions : gardenBefore.additions gardenAfter = 5 := by decide +kernel
  have removals : gardenAfter.additions gardenBefore = 4 := by decide +kernel
  have modifications : gardenBefore.modifications gardenAfter = 2 := by decide +kernel
  have stats : (Registry.default.check gardenBefore gardenAfter .epoch).stats = ⟨5, 4, 2⟩ := by
    rw [← additions, ← removals, ← modifications, ← added, ← removed, ← modified]
  have finished : (Registry.default.checkScheduled gardenBefore gardenAfter 2 oneAfterTheOther
      .epoch).any Report.complete = true := by decide +kernel
  obtain ⟨report, made, complete⟩ := (Option.any_eq_true _ _).mp finished
  refine ⟨additions, removals, modifications, stats, ?_, report, made, ?_⟩
  · rw [opposite, stats]
  · rw [scheduled 2 oneAfterTheOther report made complete, stats]

end SchemaEvolution
