import SchemaEvolution.Proofs.Report.Embedding
import SchemaEvolution.Proofs.Schema.Acceptance

/-! # Snapshots with more types

A valid snapshot beside a valid one that has some types more.  The names that the addition spares
mean the same in both (`get?_eq`), and what the smaller one defines refers to no others, so nothing
that was added can be reached from it.  What was added may refer to old types: of the types that
embed one of these, those that are new are added ones (`filter_embedders`).
-/

namespace SchemaEvolution

/-- Whether none of some types has a name. -/
def spares (types : List TypeDef) (name : String) : Bool := types.all (·.name != name)

theorem spares_iff {types : List TypeDef} {name : String} :
    spares types name = true ↔ ∀ t ∈ types, t.name ≠ name := by
  simp [spares]

/-- Whether a type refers to nothing that some types define. -/
def FieldType.Avoids (types : List TypeDef) (t : FieldType) : Prop :=
  ∀ name, t.reference? = some name → spares types name = true

/-- A valid snapshot and one with some types more, which is valid too. -/
structure Snapshot.ExtendedBy (s : Snapshot) (added : List TypeDef) (t : Snapshot) : Prop where
  valid : s.Valid
  validWhole : t.Valid
  version : s.version = t.version
  types : (s.types ++ added).Perm t.types

/-- What is built from a draft is extended by what is built from the draft with more types. -/
theorem Draft.extendedBy_of_build {d : Draft} {added : List TypeDef} {s t : Snapshot}
    (built : d.build = .ok s) (builtWhole : (d.add added).build = .ok t) :
    s.ExtendedBy added t := by
  have valid := Snapshot.IsBuilt.valid ⟨d, built⟩
  have validWhole := Snapshot.IsBuilt.valid ⟨d.add added, builtWhole⟩
  obtain ⟨-, rfl⟩ := build_eq_ok_iff_acceptable.mp built
  obtain ⟨-, rfl⟩ := build_eq_ok_iff_acceptable.mp builtWhole
  exact ⟨valid, validWhole, rfl, (perm_inOrder.append_right added).trans perm_inOrder.symm⟩

namespace Snapshot

/-- What a field of a valid snapshot refers to is there. -/
theorem FieldValid.mem_names {s : Snapshot} {m : MessageType} {f : Field}
    (valid : s.FieldValid m f) {target : String} (refers : f.type.reference? = some target) :
    target ∈ s.names := by
  have expected : ∃ kind, f.type.target? = some (target, kind) := by
    cases type : f.type with
    | scalar => rw [type] at refers; cases refers
    | message | enum | group => rw [type] at refers; cases refers; exact ⟨_, rfl⟩
  obtain ⟨kind, expected⟩ := expected
  obtain ⟨u, found, -⟩ := valid.resolves target kind expected
  obtain ⟨member, named⟩ := mem_of_get? found
  exact List.mem_map.mpr ⟨u, member, named⟩

theorem Valid.mem_names_of_refers {s : Snapshot} (valid : s.Valid) {name target : String}
    (refers : Refers s.types name target) : target ∈ s.names := by
  obtain ⟨u, member, -, referenced⟩ := refers
  cases u with
  | enum => cases referenced
  | message m =>
      obtain ⟨f, live, refers⟩ := List.mem_filterMap.mp referenced
      exact ((valid.messages m member).fields f live).mem_names refers

namespace ExtendedBy

variable {s t : Snapshot} {added : List TypeDef} (extended : s.ExtendedBy added t)
include extended

theorem mem_iff {u : TypeDef} : u ∈ t.types ↔ u ∈ s.types ∨ u ∈ added := by
  rw [← extended.types.mem_iff, List.mem_append]

/-- No old type has the name of an added one. -/
theorem spares_of_mem {u : TypeDef} (member : u ∈ s.types) : spares added u.name = true := by
  have distinct : ((s.types ++ added).map TypeDef.name).Nodup :=
    (extended.types.map TypeDef.name).nodup_iff.mpr extended.validWhole.distinct
  rw [List.map_append, List.nodup_append] at distinct
  rw [spares_iff]
  intro v inside same
  exact distinct.2.2 _ (List.mem_map_of_mem member) _ (List.mem_map_of_mem inside) same.symm

theorem spares_of_mem_names {name : String} (known : name ∈ s.names) :
    spares added name = true := by
  obtain ⟨u, member, rfl⟩ := List.mem_map.mp known
  exact extended.spares_of_mem member

theorem avoids {m : MessageType} {f : Field} (inside : .message m ∈ s.types)
    (live : f ∈ m.fields) : f.type.Avoids added := fun _ refers =>
  extended.spares_of_mem_names (((extended.valid.messages m inside).fields f live).mem_names refers)

theorem mem_of_spares {u : TypeDef} (member : u ∈ t.types) (spared : spares added u.name = true) :
    u ∈ s.types :=
  (extended.mem_iff.mp member).resolve_right fun inside => spares_iff.mp spared u inside rfl

/-- The old types are left, in their order, if the added ones are taken away. -/
theorem filter_types : t.types.filter (fun u => spares added u.name) = s.types := by
  have perm := extended.types.symm.filter fun u => spares added u.name
  have old : s.types.filter (fun u => spares added u.name) = s.types :=
    List.filter_eq_self.mpr fun u member => extended.spares_of_mem member
  have new : added.filter (fun u => spares added u.name) = [] :=
    List.filter_eq_nil_iff.mpr fun u member spared => spares_iff.mp spared u member rfl
  rw [List.filter_append, old, new, List.append_nil] at perm
  refine perm.eq_of_pairwise ?_ (extended.validWhole.sorted.filter _) extended.valid.sorted
  intro u v _ _ before after
  have cycle := nameBefore_isStrictOrder.trans _ _ _ before after
  rw [nameBefore_isStrictOrder.irrefl] at cycle
  cases cycle

theorem filter_names : t.names.filter (spares added) = s.names := by
  rw [names, names, ← extended.filter_types, List.filter_map]
  rfl

section Lookup

variable {name : String} (spared : spares added name = true)
include spared

theorem get?_eq : t.get? name = s.get? name := by
  cases found : s.get? name with
  | some u =>
      obtain ⟨member, named⟩ := mem_of_get? found
      exact extended.validWhole.get?_of_mem (extended.mem_iff.mpr (.inl member)) named
  | none =>
      rw [get?_eq_none_iff] at found ⊢
      rintro u member rfl
      exact found u (extended.mem_of_spares member spared) rfl

theorem message?_eq : t.message? name = s.message? name := by
  rw [message?, message?, extended.get?_eq spared]

theorem enum?_eq : t.enum? name = s.enum? name := by
  rw [enum?, enum?, extended.get?_eq spared]

theorem has_eq : t.has name = s.has name := by
  rw [has, has, extended.get?_eq spared]

end Lookup

theorem get?_added {u : TypeDef} (member : u ∈ added) : t.get? u.name = some u :=
  extended.validWhole.get?_of_mem (extended.mem_iff.mpr (.inr member)) rfl

/-- The references of an old type lead to old types, and they are the same in both. -/
theorem leads_iff {name target : String} (known : name ∈ s.names) :
    Relation.TransGen (Refers t.types) name target ↔
      Relation.TransGen (Refers s.types) name target := by
  have back {x y : String} (known : x ∈ s.names) (refers : Refers t.types x y) :
      Refers s.types x y := by
    obtain ⟨u, member, rfl, referenced⟩ := refers
    exact ⟨u, extended.mem_of_spares member (extended.spares_of_mem_names known), rfl, referenced⟩
  constructor
  · intro chain
    induction chain using Relation.TransGen.head_induction_on with
    | single refers => exact .single (back known refers)
    | head refers _ ih =>
        have step := back known refers
        exact .head step (ih (extended.valid.mem_names_of_refers step))
  · exact leads_mono fun u member => extended.mem_iff.mpr (.inl member)

/-- Of the types that embed an old one, those that are new are added ones. -/
theorem filter_embedders {name : String} (spared : spares added name = true) :
    (t.embedders name).filter (spares added) = s.embedders name := by
  refine Sorted.eq_of_mem_iff nameBefore_isStrictOrder
    ((pairwise_embedders extended.validWhole).filter _) (pairwise_embedders extended.valid) ?_
  intro other
  rw [List.mem_filter, mem_embedders_iff, mem_embedders_iff, extended.has_eq spared]
  have head {types : List TypeDef} (chain : Relation.TransGen (Refers types) other name) :
      ∃ u ∈ types, u.name = other := by
    obtain ⟨_, ⟨u, member, named, -⟩, -⟩ := Relation.TransGen.head'_iff.mp chain
    exact ⟨u, member, named⟩
  constructor
  · rintro ⟨⟨known, differ, chain⟩, old⟩
    obtain ⟨u, member, rfl⟩ := head chain
    have inside := extended.mem_of_spares member old
    exact ⟨known, differ, (extended.leads_iff (List.mem_map_of_mem inside)).mp chain⟩
  · rintro ⟨known, differ, chain⟩
    obtain ⟨u, member, rfl⟩ := head chain
    exact ⟨⟨known, differ, (extended.leads_iff (List.mem_map_of_mem member)).mpr chain⟩,
      extended.spares_of_mem member⟩

end ExtendedBy

end Snapshot

end SchemaEvolution
