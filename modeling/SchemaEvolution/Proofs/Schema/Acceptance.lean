import SchemaEvolution.Proofs.Schema.Built
import SchemaEvolution.Proofs.Schema.Coverage
import SchemaEvolution.Proofs.Text.Spelling

/-! # Which drafts are built

`Acceptable` says what a list of types has to satisfy to make a snapshot, without a word about how
it is checked: it speaks of the pushed types only, not of their order or of the snapshot that is
made of them.  Each layer of `Snapshot.Valid` is equivalent to its counterpart here, and
`build_decides_acceptable` puts them together.  What is built does not depend on the order in which
the types were pushed; of a draft that is not built, the order decides at most which repeated name
is blamed.
-/

namespace SchemaEvolution

/-- Whether every range lies between two numbers and holds at least one. -/
def Reservations.Within (r : Reservations) (low high : Int) : Prop :=
  ∀ range ∈ r.ranges, low ≤ range.start ∧ range.start ≤ range.stop ∧ range.stop ≤ high

/-- Whether a number and a name are not set aside. -/
def Reservations.Frees (r : Reservations) (number : Int) (name : String) : Prop :=
  (∀ range ∈ r.ranges, ¬ (range.start ≤ number ∧ number ≤ range.stop)) ∧ name ∉ r.names.toList

/-- Types whose values are numbers on the wire, enums and booleans among them. -/
def FieldType.Numeric : FieldType → Prop
  | .scalar .string | .scalar .bytes | .message _ | .group _ => False
  | .scalar _ | .enum _ => True

/-- Whether what a type refers to is among some types, with the right kind. -/
def FieldType.ResolvesIn (types : List TypeDef) : FieldType → Prop
  | .message name | .group name => ∃ m, .message m ∈ types ∧ m.name = name
  | .enum name => ∃ e, .enum e ∈ types ∧ e.name = name
  | .scalar _ => True

/-- A field that a message may declare. -/
structure AcceptableField (types : List TypeDef) (m : MessageType) (f : Field) : Prop where
  identifier : Identifier.Spelled f.name.toList
  tag : 1 ≤ f.number ∧ f.number ≤ 536870911
  notOfImplementation : ¬ (19000 ≤ f.number ∧ f.number ≤ 19999)
  free : m.reserved.Frees f.number f.name
  required : f.cardinality = .required → m.dialect = .proto2
  default : f.default ≠ none → m.dialect = .proto2
  defaultSingle : f.default ≠ none → f.cardinality ≠ .repeated
  packed : f.packed = true → f.cardinality = .repeated ∧ f.type.Numeric
  resolves : f.type.ResolvesIn types

/-- A message that may be pushed among some types. -/
structure AcceptableMessage (types : List TypeDef) (m : MessageType) : Prop where
  ranges : m.reserved.Within 1 536870911
  fields : ∀ f ∈ m.fields, AcceptableField types m f
  names : (m.fields.map Field.name).Nodup
  numbers : (m.fields.map Field.number).Nodup

/-- An enum that may be pushed. -/
structure AcceptableEnum (e : EnumType) : Prop where
  ranges : e.reserved.Within (-2147483648) 2147483647
  identifiers : ∀ v ∈ e.values, Identifier.Spelled v.name.toList
  free : ∀ v ∈ e.values, e.reserved.Frees v.number v.name
  names : (e.values.map EnumValue.name).Nodup
  numbers : (e.values.map EnumValue.number).Nodup

/-- Types that make a snapshot. -/
structure Acceptable (types : List TypeDef) : Prop where
  distinct : (types.map TypeDef.name).Nodup
  qualified : ∀ t ∈ types, Identifier.Dotted t.name.toList
  messages : ∀ m, .message m ∈ types → AcceptableMessage types m
  enums : ∀ e, .enum e ∈ types → AcceptableEnum e

theorem FieldType.ResolvesIn.mono {types others : List TypeDef} (sub : types ⊆ others)
    {t : FieldType} (resolves : t.ResolvesIn types) : t.ResolvesIn others := by
  cases t with
  | scalar kind => trivial
  | message name | group name | enum name =>
      obtain ⟨found, member, named⟩ := resolves
      exact ⟨found, sub member, named⟩

theorem AcceptableMessage.mono {types others : List TypeDef} (sub : types ⊆ others)
    {m : MessageType} (acceptable : AcceptableMessage types m) : AcceptableMessage others m where
  ranges := acceptable.ranges
  fields f member :=
    { acceptable.fields f member with resolves := (acceptable.fields f member).resolves.mono sub }
  names := acceptable.names
  numbers := acceptable.numbers

/-- The order of the types means nothing. -/
theorem Acceptable.perm {types others : List TypeDef} (perm : types.Perm others)
    (acceptable : Acceptable types) : Acceptable others where
  distinct := (perm.map TypeDef.name).nodup_iff.mp acceptable.distinct
  qualified t member := acceptable.qualified t (perm.mem_iff.mpr member)
  messages m member := (acceptable.messages m (perm.mem_iff.mpr member)).mono perm.subset
  enums e member := acceptable.enums e (perm.mem_iff.mpr member)

theorem FieldType.isPackable_iff {t : FieldType} : t.isPackable = true ↔ t.Numeric := by
  cases t with
  | scalar kind => cases kind <;> simp [isPackable, wireType, Scalar.wireType, Numeric]
  | message name | enum name | group name => simp [isPackable, wireType, Numeric]

theorem Reservations.frees_iff {r : Reservations} {number : Int} {name : String} :
    r.Frees number name ↔ r.coversNumber number = false ∧ r.coversName name = false := by
  rw [← Bool.not_eq_true (r.coversNumber number), coversNumber_iff]
  simp [Frees, coversName, NameSet.contains, ReservedRange.contains_iff]

namespace Snapshot

theorem tagRanges_iff {r : Reservations} :
    (∀ range ∈ r.ranges, tagRangeValid range = true) ↔ r.Within 1 536870911 := by
  refine forall₂_congr fun range _ => ?_
  have last : (maxTag : Int) = 536870911 := rfl
  simp only [tagRangeValid, Bool.and_eq_true, decide_eq_true_eq]
  omega

theorem valueRanges_iff {r : Reservations} :
    (∀ range ∈ r.ranges, valueRangeValid range = true) ↔
      r.Within (-2147483648) 2147483647 := by
  refine forall₂_congr fun range _ => ?_
  have first : Digits.int32Min = -2147483648 := rfl
  have last : Digits.int32Max = 2147483647 := rfl
  simp only [valueRangeValid, Bool.and_eq_true, decide_eq_true_eq]
  omega

theorem tagFree_iff {n : Nat} :
    n < implementationFirst ∨ implementationLast < n ↔ ¬ (19000 ≤ n ∧ n ≤ 19999) := by
  simp only [implementationFirst, implementationLast]
  omega

theorem enumValid_iff {e : EnumType} : EnumValid e ↔ AcceptableEnum e := by
  constructor
  · intro valid
    exact ⟨valueRanges_iff.mp valid.ranges,
      fun v member => Identifier.isIdentifier_iff.mp (valid.values v member).identifier,
      fun v member => Reservations.frees_iff.mpr
        ⟨(valid.values v member).numberFree, (valid.values v member).nameFree⟩,
      valid.distinctNames, valid.distinctNumbers⟩
  · intro acceptable
    refine ⟨valueRanges_iff.mpr acceptable.ranges, ?_, acceptable.names, acceptable.numbers⟩
    intro v member
    obtain ⟨number, name⟩ := Reservations.frees_iff.mp (acceptable.free v member)
    exact ⟨Identifier.isIdentifier_iff.mpr (acceptable.identifiers v member), number, name⟩

section Lookup

variable {s : Snapshot} {types : List TypeDef}
  (lookup : ∀ name t, s.get? name = some t ↔ t ∈ types ∧ t.name = name)
include lookup

theorem resolves_iff {type : FieldType} :
    (∀ target expected, type.target? = some (target, expected) →
      ∃ t, s.get? target = some t ∧ t.kind = expected) ↔ type.ResolvesIn types := by
  have messages (name : String) : (∃ t, s.get? name = some t ∧ t.kind = .message) ↔
      ∃ m, .message m ∈ types ∧ m.name = name := by
    simp only [lookup]
    constructor
    · rintro ⟨m | e, ⟨member, named⟩, kind⟩
      · exact ⟨m, member, named⟩
      · cases kind
    · rintro ⟨m, member, named⟩
      exact ⟨_, ⟨member, named⟩, rfl⟩
  have enums (name : String) : (∃ t, s.get? name = some t ∧ t.kind = .enum) ↔
      ∃ e, .enum e ∈ types ∧ e.name = name := by
    simp only [lookup]
    constructor
    · rintro ⟨m | e, ⟨member, named⟩, kind⟩
      · cases kind
      · exact ⟨e, member, named⟩
    · rintro ⟨e, member, named⟩
      exact ⟨_, ⟨member, named⟩, rfl⟩
  cases type with
  | scalar kind => simp [FieldType.target?, FieldType.ResolvesIn]
  | message name | group name => simp [FieldType.target?, FieldType.ResolvesIn, messages]
  | enum name => simp [FieldType.target?, FieldType.ResolvesIn, enums]

theorem fieldValid_iff {m : MessageType} {f : Field} :
    s.FieldValid m f ↔ AcceptableField types m f := by
  constructor
  · intro valid
    exact ⟨Identifier.isIdentifier_iff.mp valid.identifier, ⟨valid.tagLow, valid.tagHigh⟩,
      tagFree_iff.mp valid.tagFree,
      Reservations.frees_iff.mpr ⟨valid.numberFree, valid.nameFree⟩,
      by simpa [Cardinality.isRequired] using valid.requiredAllowed,
      by simpa [Option.isSome_iff_ne_none] using valid.defaultAllowed,
      by simpa [Option.isSome_iff_ne_none, Cardinality.isRepeated] using valid.defaultSingle,
      by simpa [Cardinality.isRepeated, FieldType.isPackable_iff] using valid.packedAllowed,
      (resolves_iff lookup).mp valid.resolves⟩
  · intro acceptable
    obtain ⟨number, name⟩ := Reservations.frees_iff.mp acceptable.free
    exact ⟨Identifier.isIdentifier_iff.mpr acceptable.identifier, acceptable.tag.1,
      acceptable.tag.2, tagFree_iff.mpr acceptable.notOfImplementation, number, name,
      by simpa [Cardinality.isRequired] using acceptable.required,
      by simpa [Option.isSome_iff_ne_none] using acceptable.default,
      by simpa [Option.isSome_iff_ne_none, Cardinality.isRepeated] using acceptable.defaultSingle,
      by simpa [Cardinality.isRepeated, FieldType.isPackable_iff] using acceptable.packed,
      (resolves_iff lookup).mpr acceptable.resolves⟩

theorem messageValid_iff {m : MessageType} : s.MessageValid m ↔ AcceptableMessage types m := by
  constructor
  · intro valid
    exact ⟨tagRanges_iff.mp valid.ranges,
      fun f member => (fieldValid_iff lookup).mp (valid.fields f member),
      valid.distinctNames, valid.distinctNumbers⟩
  · intro acceptable
    exact ⟨tagRanges_iff.mpr acceptable.ranges,
      fun f member => (fieldValid_iff lookup).mpr (acceptable.fields f member),
      acceptable.names, acceptable.numbers⟩

end Lookup

end Snapshot

namespace Draft

/-- The snapshot that a draft makes if nothing is wrong with it. -/
def ordered (d : Draft) : Snapshot := ⟨d.label, d.version, inOrder d.types⟩

theorem perm_inOrder {types : List TypeDef} : (inOrder types).Perm types :=
  Sorted.sortStable_perm _ types

theorem get?_ordered {d : Draft} (distinct : (d.types.map TypeDef.name).Nodup) (name : String)
    (t : TypeDef) : d.ordered.get? name = some t ↔ t ∈ d.types ∧ t.name = name := by
  have names : d.ordered.names.Nodup := (perm_inOrder.map TypeDef.name).nodup_iff.mpr distinct
  rw [Snapshot.get?_eq_some_iff names]
  exact and_congr_left' perm_inOrder.mem_iff

theorem defects_ordered_eq_nil_iff {d : Draft} (distinct : (d.types.map TypeDef.name).Nodup) :
    d.ordered.defects = [] ↔ Acceptable d.types := by
  have member (t : TypeDef) : t ∈ d.ordered.types ↔ t ∈ d.types := perm_inOrder.mem_iff
  simp only [Snapshot.defects_eq_nil_iff, member, Identifier.isQualified_iff,
    Snapshot.messageValid_iff (get?_ordered distinct), Snapshot.enumValid_iff]
  constructor
  · rintro ⟨qualified, messages, enums⟩
    exact ⟨distinct, qualified, messages, enums⟩
  · intro acceptable
    exact ⟨acceptable.qualified, acceptable.messages, acceptable.enums⟩

/-- An acceptable draft is built, and no other. -/
theorem build_eq_ok_iff_acceptable {d : Draft} {s : Snapshot} :
    d.build = .ok s ↔ Acceptable d.types ∧ s = d.ordered := by
  rw [build_eq_ok_iff]
  constructor
  · rintro ⟨distinct, rfl, clean⟩
    exact ⟨(defects_ordered_eq_nil_iff distinct).mp clean, rfl⟩
  · rintro ⟨acceptable, rfl⟩
    exact ⟨acceptable.distinct, rfl,
      (defects_ordered_eq_nil_iff acceptable.distinct).mpr acceptable⟩

/-- Distinct names have one order. -/
theorem inOrder_eq_of_perm {types others : List TypeDef} (perm : types.Perm others)
    (distinct : (types.map TypeDef.name).Nodup) : inOrder types = inOrder others := by
  have same := perm_inOrder.trans (perm.trans perm_inOrder.symm)
  refine same.eq_of_pairwise ?_ (pairwise_inOrder distinct)
    (pairwise_inOrder ((perm.map TypeDef.name).nodup_iff.mp distinct))
  intro t u _ _ before after
  have cycle := nameBefore_isStrictOrder.trans _ _ _ before after
  rw [nameBefore_isStrictOrder.irrefl] at cycle
  cases cycle

theorem repeatedName?_eq_some {seen : List String} {types : List TypeDef} {name : String}
    (found : repeatedName? seen types = some name) :
    name ∈ types.map TypeDef.name ∧
      (name ∈ seen ∨ 2 ≤ (types.map TypeDef.name).count name) := by
  induction types generalizing seen with
  | nil => cases found
  | cons t rest ih =>
      rw [repeatedName?] at found
      split at found
      case isTrue known =>
        cases found
        exact ⟨List.mem_cons_self, .inl (by simpa using known)⟩
      case isFalse =>
        obtain ⟨member, earlier | twice⟩ := ih found
        · rcases List.mem_cons.mp earlier with rfl | earlier
          · have once := List.one_le_count_iff.mpr member
            refine ⟨List.mem_cons_self, .inr ?_⟩
            rw [List.map_cons, List.count_cons_self]
            omega
          · exact ⟨List.mem_cons_of_mem _ member, .inl earlier⟩
        · exact ⟨List.mem_cons_of_mem _ member,
            .inr (le_trans twice (List.count_le_count_cons ..))⟩

/-- A draft that pushes some name twice is refused for such a name, before all else. -/
theorem exists_duplicate {d : Draft} (repeats : ¬ (d.types.map TypeDef.name).Nodup) :
    ∃ name, d.build = .error (.duplicateType d.label name) ∧
      2 ≤ (d.types.map TypeDef.name).count name := by
  cases found : repeatedName? [] d.types with
  | none => exact absurd (repeatedName?_eq_none_iff.mp found).1 repeats
  | some name =>
      have twice := (repeatedName?_eq_some found).2.resolve_left List.not_mem_nil
      exact ⟨name, by rw [build, found], twice⟩

theorem types_of_perm {d e : Draft} (perm : d.types.Perm e.types) :
    d.build.toOption.map Snapshot.types = e.build.toOption.map Snapshot.types := by
  by_cases acceptable : Acceptable d.types
  · rw [build_eq_ok_iff_acceptable.mpr ⟨acceptable, rfl⟩,
      build_eq_ok_iff_acceptable.mpr ⟨acceptable.perm perm, rfl⟩]
    exact congrArg some (inOrder_eq_of_perm perm acceptable.distinct)
  · have refused (e : Draft) (unacceptable : ¬ Acceptable e.types) : e.build.toOption = none := by
      cases built : e.build with
      | error failure => rfl
      | ok s => exact absurd (build_eq_ok_iff_acceptable.mp built).1 unacceptable
    rw [refused d acceptable, refused e fun other => acceptable (other.perm perm.symm)]

theorem build_of_perm {d e : Draft} (perm : d.types.Perm e.types) (label : d.label = e.label)
    (version : d.version = e.version) (distinct : (d.types.map TypeDef.name).Nodup) :
    d.build = e.build := by
  have distinctE := (perm.map TypeDef.name).nodup_iff.mp distinct
  unfold build
  rw [repeatedName?_eq_none_iff.mpr ⟨distinct, by simp⟩,
    repeatedName?_eq_none_iff.mpr ⟨distinctE, by simp⟩, inOrder_eq_of_perm perm distinct, label,
    version]

/-- A draft is built exactly if its types are acceptable, and the snapshot has them under their
    names and no others.  The order of the types changes neither whether the draft is built nor
    what it is built into; it changes the failure at most from one name that was pushed twice to
    another. -/
theorem build_decides_acceptable (d : Draft) :
    ((∃ s, d.build = .ok s) ↔ Acceptable d.types) ∧
      (∀ s, d.build = .ok s → s.label = d.label ∧ s.version = d.version ∧
        ∀ name t, s.get? name = some t ↔ t ∈ d.types ∧ t.name = name) ∧
      ∀ e : Draft, d.types.Perm e.types →
        d.build.toOption.map Snapshot.types = e.build.toOption.map Snapshot.types ∧
        (d.label = e.label → d.version = e.version → d.build = e.build ∨
          ∃ a b, d.build = .error (.duplicateType d.label a) ∧
            e.build = .error (.duplicateType e.label b) ∧
            2 ≤ (d.types.map TypeDef.name).count a ∧ 2 ≤ (e.types.map TypeDef.name).count b) := by
  refine ⟨?_, ?_, fun e perm => ⟨types_of_perm perm, ?_⟩⟩
  · simp [build_eq_ok_iff_acceptable]
  · intro s built
    obtain ⟨acceptable, rfl⟩ := build_eq_ok_iff_acceptable.mp built
    exact ⟨rfl, rfl, get?_ordered acceptable.distinct⟩
  · intro label version
    by_cases distinct : (d.types.map TypeDef.name).Nodup
    · exact .inl (build_of_perm perm label version distinct)
    · obtain ⟨a, failsD, twiceD⟩ := exists_duplicate distinct
      obtain ⟨b, failsE, twiceE⟩ := exists_duplicate
        fun distinctE => distinct ((perm.map TypeDef.name).nodup_iff.mpr distinctE)
      exact .inr ⟨a, b, failsD, failsE, twiceD, twiceE⟩

/-- A message that refers to itself and to an enum. -/
def contact : TypeDef :=
  .message ⟨"acme.Contact", .proto2, [
      ⟨7, "friends", .message "acme.Contact", .repeated, false, none⟩,
      ⟨1, "email", .scalar .string, .required, false, none⟩,
      ⟨2, "status", .enum "acme.Status", .singular, false, some "KNOWN"⟩],
    ⟨[⟨3, 5⟩, ⟨100, 536870911⟩], .ofList ["phone"]⟩⟩

def status : TypeDef :=
  .enum ⟨"acme.Status", .proto2, [⟨-1, "LOST"⟩, ⟨4, "KNOWN"⟩], ⟨[⟨0, 3⟩], .empty⟩⟩

theorem contacts_are_built_in_either_order :
    Acceptable [status, contact] ∧
      (∃ s, build ⟨"contacts", none, [status, contact]⟩ = .ok s ∧
        s.get? "acme.Contact" = some contact ∧ s.get? "acme.Status" = some status) ∧
      (build ⟨"contacts", none, [contact, status]⟩).toOption.map Snapshot.types =
        some [contact, status] := by
  obtain ⟨accepts, maps, order⟩ := build_decides_acceptable ⟨"contacts", none, [status, contact]⟩
  have built : build ⟨"contacts", none, [status, contact]⟩ =
      .ok ⟨"contacts", none, [contact, status]⟩ := by decide +kernel
  obtain ⟨-, -, found⟩ := maps _ built
  refine ⟨accepts.mp ⟨_, built⟩, ⟨_, built, (found _ _).mpr ⟨by simp, rfl⟩,
    (found _ _).mpr ⟨by simp, rfl⟩⟩, ?_⟩
  rw [← (order ⟨"contacts", none, [contact, status]⟩ (.swap ..)).1, built]
  rfl

end Draft

end SchemaEvolution
