import SchemaEvolution.Proofs.Schema.Acceptance
import SchemaEvolution.Report.Embedding

/-! # Declaration order

Definitions that differ in the order of their declarations only: types, fields and reserved ranges
come in another order.  Enum values stay in their places, for the first one is the value that
readers fall back on.  What a draft may hold does not depend on that order, so a reordered draft is
built if the draft is (`Draft.Reordered.exists_build`), and every lookup in the two snapshots finds
the same up to order.
-/

namespace SchemaEvolution

/-- The same names, and the same ranges in another order. -/
structure Reservations.Reordered (r q : Reservations) : Prop where
  ranges : r.ranges.Perm q.ranges
  names : r.names = q.names

/-- The same fields in another order, with the reserved ranges in another order too. -/
structure MessageType.Reordered (m n : MessageType) : Prop where
  name : m.name = n.name
  dialect : m.dialect = n.dialect
  fields : m.fields.Perm n.fields
  reserved : m.reserved.Reordered n.reserved

/-- The same values, with the reserved ranges in another order. -/
structure EnumType.Reordered (e k : EnumType) : Prop where
  name : e.name = k.name
  dialect : e.dialect = k.dialect
  values : e.values = k.values
  reserved : e.reserved.Reordered k.reserved

/-- Two definitions of one type that differ in their order at most. -/
inductive TypeDef.Reordered : TypeDef → TypeDef → Prop
  | message {m n : MessageType} (reordered : m.Reordered n) : Reordered (.message m) (.message n)
  | enum {e k : EnumType} (reordered : e.Reordered k) : Reordered (.enum e) (.enum k)

/-- The same types, each with its declarations in another order. -/
structure Snapshot.Reordered (s t : Snapshot) : Prop where
  label : s.label = t.label
  version : s.version = t.version
  types : List.Forall₂ TypeDef.Reordered s.types t.types

/-- The same types pushed in another order, each with its declarations in another order. -/
structure Draft.Reordered (d e : Draft) : Prop where
  label : d.label = e.label
  version : d.version = e.version
  types : ∃ middle, d.types.Perm middle ∧ List.Forall₂ TypeDef.Reordered middle e.types

namespace Reservations.Reordered

variable {r q : Reservations} (reordered : r.Reordered q)
include reordered

theorem symm : q.Reordered r := ⟨reordered.ranges.symm, reordered.names.symm⟩

theorem coversNumber_eq (n : Int) : r.coversNumber n = q.coversNumber n :=
  reordered.ranges.any_eq

theorem coversName_eq (name : String) : r.coversName name = q.coversName name := by
  rw [coversName, reordered.names]
  rfl

theorem rangeSet_eq : r.rangeSet = q.rangeSet :=
  rangeSet_eq_iff.mpr fun _ => reordered.ranges.mem_iff

/-- The order of ranges is total, so they have one sorted order. -/
theorem sortedRanges_eq : r.sortedRanges = q.sortedRanges := by
  have perm : r.sortedRanges.Perm q.sortedRanges :=
    (Sorted.sortStable_perm _ _).trans
      (reordered.ranges.trans (Sorted.sortStable_perm _ _).symm)
  refine perm.eq_of_pairwise ?_ r.pairwise_notAfter_sortedRanges q.pairwise_notAfter_sortedRanges
  intro a b _ _ notAfter notBefore
  exact ReservedRange.before_isStrictOrder.eq_of_neither a b notBefore notAfter

theorem coversRange_eq (target : ReservedRange) : r.coversRange target = q.coversRange target := by
  rw [coversRange, coversRange, reordered.sortedRanges_eq]

theorem within {low high : Int} (within : r.Within low high) : q.Within low high :=
  fun range member => within range (reordered.ranges.mem_iff.mpr member)

theorem frees {number : Int} {name : String} (frees : r.Frees number name) :
    q.Frees number name :=
  ⟨fun range member => frees.1 range (reordered.ranges.mem_iff.mpr member),
    reordered.names ▸ frees.2⟩

end Reservations.Reordered

namespace MessageType.Reordered

variable {m n : MessageType} (reordered : m.Reordered n)
include reordered

theorem symm : n.Reordered m :=
  ⟨reordered.name.symm, reordered.dialect.symm, reordered.fields.symm, reordered.reserved.symm⟩

theorem field?_eq (distinct : (m.fields.map Field.number).Nodup) (number : Nat) :
    m.field? number = n.field? number :=
  find?_eq_of_perm reordered.fields distinct number

end MessageType.Reordered

namespace EnumType.Reordered

variable {e k : EnumType} (reordered : e.Reordered k)
include reordered

theorem symm : k.Reordered e :=
  ⟨reordered.name.symm, reordered.dialect.symm, reordered.values.symm, reordered.reserved.symm⟩

theorem hasZero_eq : e.hasZero = k.hasZero := by
  simp only [hasZero, value?, reordered.values]

end EnumType.Reordered

namespace TypeDef.Reordered

variable {t u : TypeDef} (reordered : t.Reordered u)
include reordered

theorem symm : u.Reordered t := by
  cases reordered with
  | message same => exact .message same.symm
  | enum same => exact .enum same.symm

theorem name_eq : t.name = u.name := by
  cases reordered with
  | message same | enum same => exact same.name

theorem kind_eq : t.kind = u.kind := by
  cases reordered <;> rfl

theorem references_perm : t.references.Perm u.references := by
  cases reordered with
  | message same => exact same.fields.filterMap _
  | enum => exact .refl _

theorem rel_message? : Option.Rel MessageType.Reordered t.message? u.message? := by
  cases reordered with
  | message same => exact .some same
  | enum => exact .none

theorem rel_enum? : Option.Rel EnumType.Reordered t.enum? u.enum? := by
  cases reordered with
  | message => exact .none
  | enum same => exact .some same

end TypeDef.Reordered

section Acceptance

variable {types others : List TypeDef} (related : List.Forall₂ TypeDef.Reordered types others)
include related

theorem names_eq_of_forall₂ : types.map TypeDef.name = others.map TypeDef.name :=
  map_eq_of_forall₂ (related.imp fun _ _ same => same.name_eq)

theorem FieldType.ResolvesIn.of_forall₂ {t : FieldType} (resolves : t.ResolvesIn types) :
    t.ResolvesIn others := by
  cases t with
  | scalar kind => trivial
  | message name | group name =>
      obtain ⟨_, member, named⟩ := resolves
      obtain ⟨_, inside, same⟩ := exists_of_mem_left related member
      cases same with
      | message same => exact ⟨_, inside, same.name.symm.trans named⟩
  | enum name =>
      obtain ⟨_, member, named⟩ := resolves
      obtain ⟨_, inside, same⟩ := exists_of_mem_left related member
      cases same with
      | enum same => exact ⟨_, inside, same.name.symm.trans named⟩

theorem AcceptableMessage.reorder {m n : MessageType} (reordered : m.Reordered n)
    (acceptable : AcceptableMessage types m) : AcceptableMessage others n where
  ranges := reordered.reserved.within acceptable.ranges
  fields f member :=
    have field := acceptable.fields f (reordered.fields.mem_iff.mpr member)
    { identifier := field.identifier
      tag := field.tag
      notOfImplementation := field.notOfImplementation
      free := reordered.reserved.frees field.free
      required := fun required => reordered.dialect ▸ field.required required
      default := fun explicit => reordered.dialect ▸ field.default explicit
      defaultSingle := field.defaultSingle
      packed := field.packed
      resolves := field.resolves.of_forall₂ related }
  names := (reordered.fields.map Field.name).nodup_iff.mp acceptable.names
  numbers := (reordered.fields.map Field.number).nodup_iff.mp acceptable.numbers

omit related in
theorem AcceptableEnum.reorder {e k : EnumType} (reordered : e.Reordered k)
    (acceptable : AcceptableEnum e) : AcceptableEnum k where
  ranges := reordered.reserved.within acceptable.ranges
  identifiers := reordered.values ▸ acceptable.identifiers
  free v member := reordered.reserved.frees (acceptable.free v (reordered.values ▸ member))
  names := reordered.values ▸ acceptable.names
  numbers := reordered.values ▸ acceptable.numbers

/-- Whether types make a snapshot does not depend on the order of what they declare. -/
theorem Acceptable.reorder (acceptable : Acceptable types) : Acceptable others where
  distinct := names_eq_of_forall₂ related ▸ acceptable.distinct
  qualified u member := by
    obtain ⟨t, inside, same⟩ := exists_of_mem_right related member
    exact same.name_eq ▸ acceptable.qualified t inside
  messages n member := by
    obtain ⟨_, inside, same⟩ := exists_of_mem_right related member
    cases same with
    | message same => exact (acceptable.messages _ inside).reorder related same
  enums k member := by
    obtain ⟨_, inside, same⟩ := exists_of_mem_right related member
    cases same with
    | enum same => exact (acceptable.enums _ inside).reorder same

end Acceptance

/-- A reordered draft is built if the draft is, into the snapshot with its declarations in another
    order. -/
theorem Draft.Reordered.exists_build {d e : Draft} (reordered : d.Reordered e) {s : Snapshot}
    (built : d.build = .ok s) : ∃ t, e.build = .ok t ∧ s.Reordered t := by
  obtain ⟨middle, perm, related⟩ := reordered.types
  obtain ⟨acceptable, rfl⟩ := build_eq_ok_iff_acceptable.mp built
  refine ⟨e.ordered, build_eq_ok_iff_acceptable.mpr
    ⟨(acceptable.perm perm).reorder related, rfl⟩, reordered.label, reordered.version, ?_⟩
  have sorted : List.Forall₂ TypeDef.Reordered (inOrder middle) (inOrder e.types) :=
    Sorted.forall₂_sortStable
      (fun a b first c d next => by rw [first.name_eq, next.name_eq]) related
  change List.Forall₂ TypeDef.Reordered (inOrder d.types) (inOrder e.types)
  rwa [inOrder_eq_of_perm perm acceptable.distinct]

namespace Snapshot.Reordered

variable {s t : Snapshot} (reordered : s.Reordered t)
include reordered

theorem symm : t.Reordered s where
  label := reordered.label.symm
  version := reordered.version.symm
  types := (reordered.types.imp fun _ _ same => same.symm).flip

theorem names_eq : s.names = t.names := names_eq_of_forall₂ reordered.types

theorem rel_get? (name : String) : Option.Rel TypeDef.Reordered (s.get? name) (t.get? name) :=
  rel_find? (fun a b same => by rw [same.name_eq]) reordered.types

theorem has_eq (name : String) : s.has name = t.has name :=
  isSome_eq_of_rel (reordered.rel_get? name)

theorem rel_message? (name : String) :
    Option.Rel MessageType.Reordered (s.message? name) (t.message? name) :=
  rel_bind (fun _ _ same => same.rel_message?) (reordered.rel_get? name)

theorem exists_message? {name : String} {m : MessageType} (found : s.message? name = some m) :
    ∃ n, t.message? name = some n ∧ m.Reordered n :=
  exists_of_rel (found ▸ reordered.rel_message? name)

theorem rel_enum? (name : String) :
    Option.Rel EnumType.Reordered (s.enum? name) (t.enum? name) :=
  rel_bind (fun _ _ same => same.rel_enum?) (reordered.rel_get? name)

end Snapshot.Reordered

section Embedding

variable {types others : List TypeDef} {found : List String}

theorem TypeDef.Reordered.refersTo_eq {t u : TypeDef} (same : t.Reordered u) :
    Snapshot.refersTo found t = Snapshot.refersTo found u :=
  same.references_perm.any_eq

theorem Snapshot.forall₂_filter_refersTo (related : List.Forall₂ TypeDef.Reordered types others) :
    List.Forall₂ TypeDef.Reordered (types.filter (refersTo found))
      (others.filter (refersTo found)) :=
  forall₂_filter (fun _ _ same => same.refersTo_eq) related

theorem Snapshot.forall₂_unrelated (related : List.Forall₂ TypeDef.Reordered types others) :
    List.Forall₂ TypeDef.Reordered (unrelated found types) (unrelated found others) :=
  forall₂_filter (fun _ _ same => by rw [same.refersTo_eq]) related

theorem Snapshot.collect_eq_of_forall₂ (related : List.Forall₂ TypeDef.Reordered types others) :
    collect found types = collect found others := by
  -- A round adds the names of the types that refer to what has been found, and goes on with the
  -- rest; in both lists the round adds the same names and the rests are related again.
  fun_induction collect found types generalizing others with
  | case1 found types round =>
      have referring : List.Forall₂ TypeDef.Reordered (types.filter (refersTo found)) _ :=
        forall₂_filter_refersTo related
      rw [round, List.forall₂_nil_left_iff] at referring
      rw [collect]
      split
      case h_1 => rfl
      case h_2 more => rw [referring] at more; cases more
  | case2 found types fresh more round ih =>
      have referring : List.Forall₂ TypeDef.Reordered (types.filter (refersTo found)) _ :=
        forall₂_filter_refersTo related
      rw [ih (forall₂_unrelated related), ← round, names_eq_of_forall₂ referring]
      conv_rhs => rw [collect]
      split
      case h_1 none => rw [none, round] at referring; cases referring
      case h_2 same => rw [same]

/-- Which types embed a type does not depend on the order of declarations. -/
theorem Snapshot.Reordered.embedders_eq {s t : Snapshot} (reordered : s.Reordered t)
    (name : String) : s.embedders name = t.embedders name := by
  have others : List.Forall₂ TypeDef.Reordered (s.types.filter (·.name != name))
      (t.types.filter (·.name != name)) :=
    forall₂_filter (fun _ _ same => by rw [same.name_eq]) reordered.types
  rw [embedders, embedders, reordered.has_eq, reordered.names_eq, collect_eq_of_forall₂ others]

end Embedding

end SchemaEvolution
