import SchemaEvolution.Proofs.Check.Scheduling
import SchemaEvolution.Proofs.Report.Consolidation
import SchemaEvolution.Proofs.Schema.Extension

/-! # Affected types

The finding about a type lists the other types that embed it, by way of any number of fields.  In a
built snapshot these are the types from which a chain of fields leads to it, also where chains run
in circles (`Snapshot.mem_embedders_iff_of_built`).  Rules leave the list empty; a report fills it
in for breaking findings, from the candidate or, where the type is gone, from the base.  Main
statement: `affected_types_are_those_that_embed`.
-/

namespace SchemaEvolution

namespace Snapshot

/-- Whether a field of one type refers to another one: to a message, to an enum or to a group. -/
def Embeds (s : Snapshot) (name target : String) : Prop :=
  ∃ m f, .message m ∈ s.types ∧ m.name = name ∧ f ∈ m.fields ∧
    (f.type = .message target ∨ f.type = .enum target ∨ f.type = .group target)

theorem embeds_iff {s : Snapshot} {name target : String} :
    s.Embeds name target ↔ Refers s.types name target := by
  have refers (t : FieldType) : t.reference? = some target ↔
      t = .message target ∨ t = .enum target ∨ t = .group target := by
    cases t <;> simp [FieldType.reference?]
  constructor
  · rintro ⟨m, f, member, named, live, type⟩
    exact ⟨.message m, member, named, List.mem_filterMap.mpr ⟨f, live, (refers f.type).mpr type⟩⟩
  · rintro ⟨t, member, named, referenced⟩
    cases t with
    | enum => cases referenced
    | message m =>
        obtain ⟨f, live, type⟩ := List.mem_filterMap.mp referenced
        exact ⟨m, f, member, named, live, (refers f.type).mp type⟩

theorem has_iff {s : Snapshot} {name : String} : s.has name = true ↔ name ∈ s.names := by
  simp [has, get?, names, TypeDef.name]

variable {s : Snapshot} (built : s.IsBuilt)
include built

/-- The embedders of a name are the other names from which a chain of fields leads to it. -/
theorem mem_embedders_iff_of_built {name other : String} :
    other ∈ s.embedders name ↔ other ≠ name ∧ Relation.TransGen s.Embeds other name := by
  have same : s.Embeds = Refers s.types := funext₂ fun _ _ => propext embeds_iff
  rw [mem_embedders_iff, same, and_iff_right_iff_imp]
  rintro ⟨-, chain⟩
  obtain ⟨last, -, refers⟩ := Relation.TransGen.tail'_iff.mp chain
  exact has_iff.mpr (built.valid.mem_names_of_refers refers)

end Snapshot

/-- Whether the breaking findings of a report list the types that embed theirs, in order, and the
    advisory ones list nothing. -/
structure Report.ListsEmbedders (report : Report) (base candidate : Snapshot) : Prop where
  ordered : ∀ f ∈ report.findings, f.affected.Pairwise (nameBefore · · = true)
  breaking : ∀ f ∈ report.findings, f.severity = .breaking → ∀ other, other ∈ f.affected ↔
    other ≠ f.typeName ∧
      Relation.TransGen (if candidate.has f.typeName then candidate else base).Embeds other
        f.typeName
  advisory : ∀ f ∈ report.findings, f.severity = .advisory → f.affected = []

section Runs

variable {r : Registry} {base candidate : Snapshot} {processed : List TypePair}
  {generatedAt : Timestamp}

/-- A finding is annotated once, and its list is empty until then. -/
theorem Registry.exists_annotate_of_mem_reportOn {f : Finding}
    (reported : f ∈ (r.reportOn base candidate processed generatedAt).findings) :
    ∃ g : Finding, g.affected = [] ∧ g.annotate base candidate = f := by
  rw [reportOn_findings] at reported
  obtain ⟨g, kept, rfl⟩ := List.mem_map.mp reported
  obtain ⟨raw, found, rfl⟩ := Finding.exists_grade_of_mem_consolidate kept
  obtain ⟨pair, -, found⟩ := List.mem_flatMap.mp found
  exact ⟨_, (Finding.affected_grade _ raw).trans (affected_of_mem_evaluate found), rfl⟩

theorem Finding.affected_annotate_of_breaking {f : Finding} (grave : f.severity = .breaking) :
    (f.annotate base candidate).affected =
      (if candidate.has f.typeName then candidate else base).embedders f.typeName := by
  rw [annotate, isBreaking, if_pos (beq_iff_eq.mpr grave)]

theorem Finding.annotate_of_advisory {f : Finding} (mild : f.severity = .advisory) :
    f.annotate base candidate = f := by
  rw [annotate, isBreaking, mild]
  rfl

theorem Registry.listsEmbedders_reportOn (builtBase : base.IsBuilt)
    (builtCandidate : candidate.IsBuilt) (processed : List TypePair) (generatedAt : Timestamp) :
    (r.reportOn base candidate processed generatedAt).ListsEmbedders base candidate := by
  have home (name : String) : (if candidate.has name then candidate else base).IsBuilt := by
    split
    · exact builtCandidate
    · exact builtBase
  refine ⟨?_, ?_, ?_⟩
  · intro f reported
    obtain ⟨g, empty, rfl⟩ := exists_annotate_of_mem_reportOn reported
    cases grade : g.severity with
    | advisory =>
        rw [Finding.annotate_of_advisory grade, empty]
        exact List.Pairwise.nil
    | breaking =>
        rw [Finding.affected_annotate_of_breaking grade]
        exact Snapshot.pairwise_embedders (home g.typeName).valid
  · intro f reported grave other
    obtain ⟨g, -, rfl⟩ := exists_annotate_of_mem_reportOn reported
    rw [Finding.severity_annotate] at grave
    rw [Finding.affected_annotate_of_breaking grave, Finding.typeName_annotate]
    exact Snapshot.mem_embedders_iff_of_built (home g.typeName)
  · intro f reported mild
    obtain ⟨g, empty, rfl⟩ := exists_annotate_of_mem_reportOn reported
    rw [Finding.severity_annotate] at mild
    rw [Finding.annotate_of_advisory mild, empty]

end Runs

/-- The embedders of a name are the other types from which a chain of fields leads to it, and a name
    that no type has is embedded by none.  Whatever part of the names a run has checked, and however
    its workers were scheduled, its breaking findings list just these types, and its advisory ones
    list none. -/
theorem affected_types_are_those_that_embed {base candidate : Snapshot} (builtBase : base.IsBuilt)
    (builtCandidate : candidate.IsBuilt) (r : Registry) :
    (∀ s : Snapshot, s.IsBuilt → ∀ name,
      (∀ other, other ∈ s.embedders name ↔
        other ≠ name ∧ Relation.TransGen s.Embeds other name) ∧
      (s.embedders name).Pairwise (nameBefore · · = true) ∧
      (name ∉ s.names → s.embedders name = [])) ∧
    (∀ processed generatedAt,
      (r.reportOn base candidate processed generatedAt).ListsEmbedders base candidate) ∧
    ∀ suggested schedule generatedAt report,
      r.checkScheduled base candidate suggested schedule generatedAt = some report →
        report.ListsEmbedders base candidate := by
  refine ⟨?_, Registry.listsEmbedders_reportOn builtBase builtCandidate, ?_⟩
  · intro s built name
    refine ⟨fun _ => Snapshot.mem_embedders_iff_of_built built,
      Snapshot.pairwise_embedders built.valid, ?_⟩
    intro unknown
    rw [← Snapshot.has_iff] at unknown
    exact if_neg unknown
  · intro suggested schedule generatedAt report made
    obtain ⟨shares, rfl, -⟩ := Registry.exists_shares made
    rw [Registry.gather_outputs]
    exact Registry.listsEmbedders_reportOn builtBase builtCandidate _ generatedAt

/-- Nodes that hold nodes, two leaves and the tree that they belong to. -/
def grove (size : Scalar) : Snapshot where
  label := "grove"
  version := none
  types := [
    .message ⟨"acme.Leaf", .proto2, [⟨1, "size", .scalar size, .singular, false, none⟩], .none⟩,
    .message ⟨"acme.Node", .proto2, [
      ⟨1, "twin", .group "acme.Node", .singular, false, none⟩,
      ⟨2, "left", .message "acme.Leaf", .singular, false, none⟩,
      ⟨3, "right", .message "acme.Leaf", .singular, false, none⟩,
      ⟨4, "owner", .message "acme.Tree", .singular, false, none⟩], .none⟩,
    .message ⟨"acme.Tree", .proto2, [
      ⟨1, "root", .message "acme.Node", .singular, false, none⟩], .none⟩]

/-- A leaf with another size affects the nodes that hold it and the trees that hold these. -/
theorem nodes_and_trees_embed_leaves :
    (grove .int32).IsBuilt ∧ (grove .string).IsBuilt ∧
      (∀ other, other ≠ "acme.Leaf" ∧
        Relation.TransGen (grove .string).Embeds other "acme.Leaf" ↔
          other = "acme.Node" ∨ other = "acme.Tree") ∧
      (Registry.default.check (grove .int32) (grove .string) .epoch).ListsEmbedders
        (grove .int32) (grove .string) ∧
      (Registry.default.check (grove .int32) (grove .string) .epoch).findings.map
        Finding.affected = [["acme.Node", "acme.Tree"]] := by
  have built (size : Scalar)
      (ok : (Draft.build ⟨"grove", none, (grove size).types⟩) = .ok (grove size)) :
      (grove size).IsBuilt := ⟨_, ok⟩
  have builtBase := built .int32 (by decide +kernel)
  have builtCandidate := built .string (by decide +kernel)
  obtain ⟨embedders, reports, -⟩ :=
    affected_types_are_those_that_embed builtBase builtCandidate Registry.default
  have found : (grove .string).embedders "acme.Leaf" = ["acme.Node", "acme.Tree"] := by
    decide +kernel
  refine ⟨builtBase, builtCandidate, ?_, reports _ .epoch, by decide +kernel⟩
  intro other
  rw [← (embedders _ builtCandidate "acme.Leaf").1, found]
  simp

end SchemaEvolution
