import Mathlib
import SchemaEvolution.Change.Pairing
import SchemaEvolution.Proofs.Order.Corresponding
import SchemaEvolution.Schema.Validity

/-! # Built snapshots

What `Draft.build` guarantees of a snapshot that it returns, as one structure for each layer: the
type map, a message, a field, an enum, a value.  Everything else is derived from the structures,
so no later proof opens the list of defects again.  Fields and enum values share the laws of
members: identifiers as names, distinct names and numbers, nothing that their type reserves.
-/

namespace SchemaEvolution

/-- The members of a type in a built snapshot. -/
structure Member.Sound {α : Type} [Member α] (reserved : Reservations) (members : List α) :
    Prop where
  identifier : ∀ a ∈ members, Identifier.isIdentifier (Member.name a).toList = true
  distinctNames : (members.map Member.name).Nodup
  distinctNumbers : (members.map Member.number).Nodup
  numberFree : ∀ a ∈ members, reserved.coversNumber (Member.number a) = false
  nameFree : ∀ a ∈ members, reserved.coversName (Member.name a) = false

namespace Member

variable {α : Type} [Member α]

theorem find?_eq_none_iff {members : List α} {n : Int} :
    find? members n = none ↔ ∀ a ∈ members, number a ≠ n := by
  simp [find?]

theorem mem_of_find? {members : List α} {n : Int} {a : α} (found : find? members n = some a) :
    a ∈ members ∧ number a = n := by
  have numbered := List.find?_some found
  exact ⟨List.mem_of_find?_eq_some found, by simpa using numbered⟩

namespace Sound

variable {reserved : Reservations} {members : List α}

theorem eq_of_number (sound : Sound reserved members) {a b : α} (ha : a ∈ members)
    (hb : b ∈ members) (same : number a = number b) : a = b :=
  List.inj_on_of_nodup_map sound.distinctNumbers ha hb same

theorem eq_of_name (sound : Sound reserved members) {a b : α} (ha : a ∈ members)
    (hb : b ∈ members) (same : name a = name b) : a = b :=
  List.inj_on_of_nodup_map sound.distinctNames ha hb same

theorem find?_eq_some_iff (sound : Sound reserved members) {n : Int} {a : α} :
    find? members n = some a ↔ a ∈ members ∧ number a = n :=
  find?_eq_some_iff_of_nodup sound.distinctNumbers

end Sound

end Member

namespace Snapshot

/-- A field that a message of a snapshot may declare. -/
structure FieldValid (s : Snapshot) (m : MessageType) (f : Field) : Prop where
  identifier : Identifier.isIdentifier f.name.toList = true
  tagLow : 1 ≤ f.number
  tagHigh : f.number ≤ maxTag
  tagFree : f.number < implementationFirst ∨ implementationLast < f.number
  numberFree : m.reserved.coversNumber f.number = false
  nameFree : m.reserved.coversName f.name = false
  requiredAllowed : f.cardinality.isRequired = true → m.dialect = .proto2
  defaultAllowed : f.default.isSome = true → m.dialect = .proto2
  defaultSingle : f.default.isSome = true → f.cardinality.isRepeated = false
  packedAllowed : f.packed = true → f.cardinality.isRepeated = true ∧ f.type.isPackable = true
  resolves : ∀ target expected, f.type.target? = some (target, expected) →
    ∃ t, s.get? target = some t ∧ t.kind = expected

/-- A message that a snapshot may hold. -/
structure MessageValid (s : Snapshot) (m : MessageType) : Prop where
  ranges : ∀ r ∈ m.reserved.ranges, tagRangeValid r = true
  fields : ∀ f ∈ m.fields, s.FieldValid m f
  distinctNames : (m.fields.map Field.name).Nodup
  distinctNumbers : (m.fields.map Field.number).Nodup

/-- A value that an enum may declare. -/
structure ValueValid (e : EnumType) (v : EnumValue) : Prop where
  identifier : Identifier.isIdentifier v.name.toList = true
  numberFree : e.reserved.coversNumber v.number = false
  nameFree : e.reserved.coversName v.name = false

/-- An enum that a snapshot may hold. -/
structure EnumValid (e : EnumType) : Prop where
  ranges : ∀ r ∈ e.reserved.ranges, valueRangeValid r = true
  values : ∀ v ∈ e.values, ValueValid e v
  distinctNames : (e.values.map EnumValue.name).Nodup
  distinctNumbers : (e.values.map EnumValue.number).Nodup

/-- A snapshot without defects whose types are in the order of their names. -/
structure Valid (s : Snapshot) : Prop where
  sorted : s.types.Pairwise fun t u => nameBefore t.name u.name = true
  qualified : ∀ t ∈ s.types, Identifier.isQualified t.name.toList = true
  messages : ∀ m, .message m ∈ s.types → s.MessageValid m
  enums : ∀ e, .enum e ∈ s.types → EnumValid e

/-- A snapshot that some draft was built into. -/
def IsBuilt (s : Snapshot) : Prop := ∃ d : Draft, d.build = .ok s

theorem fieldDefects_eq_nil_iff_valid {s : Snapshot} {m : MessageType} {earlier : List Field}
    {f : Field} :
    s.fieldDefects m earlier f = [] ↔
      s.FieldValid m f ∧ (∀ g ∈ earlier, g.name ≠ f.name) ∧ ∀ g ∈ earlier, g.number ≠ f.number := by
  rw [fieldDefects_eq_nil_iff, referenceDefects_eq_nil_iff]
  constructor
  · rintro ⟨identifier, names, ⟨low, high⟩, free, numbers, number, name, required, default, single,
      packed, resolves⟩
    exact ⟨⟨identifier, low, high, free, number, name, required, default, single, packed, resolves⟩,
      names, numbers⟩
  · rintro ⟨valid, names, numbers⟩
    exact ⟨valid.identifier, names, ⟨valid.tagLow, valid.tagHigh⟩, valid.tagFree, numbers,
      valid.numberFree, valid.nameFree, valid.requiredAllowed, valid.defaultAllowed,
      valid.defaultSingle, valid.packedAllowed, valid.resolves⟩

/-- The fields that were looked at before keep their names and numbers to themselves. -/
theorem fieldsDefects_eq_nil_iff {s : Snapshot} {m : MessageType} {earlier fields : List Field} :
    s.fieldsDefects m earlier fields = [] ↔
      (∀ f ∈ fields, s.FieldValid m f) ∧
      (fields.map Field.name).Nodup ∧ (fields.map Field.number).Nodup ∧
      (∀ g ∈ earlier, ∀ f ∈ fields, g.name ≠ f.name) ∧
      ∀ g ∈ earlier, ∀ f ∈ fields, g.number ≠ f.number := by
  induction fields generalizing earlier with
  | nil => simp [fieldsDefects]
  | cons f rest ih =>
      simp only [fieldsDefects, List.append_eq_nil_iff, fieldDefects_eq_nil_iff_valid, ih,
        List.forall_mem_cons, List.map_cons, List.nodup_cons, List.mem_map, not_exists, not_and]
      constructor
      · rintro ⟨⟨valid, names, numbers⟩, valids, distinctNames, distinctNumbers,
          ⟨nameApart, namesApart⟩, numberApart, numbersApart⟩
        exact ⟨⟨valid, valids⟩, ⟨fun g member same => nameApart g member same.symm, distinctNames⟩,
          ⟨fun g member same => numberApart g member same.symm, distinctNumbers⟩,
          fun g member => ⟨names g member, namesApart g member⟩,
          fun g member => ⟨numbers g member, numbersApart g member⟩⟩
      · rintro ⟨⟨valid, valids⟩, ⟨nameApart, distinctNames⟩, ⟨numberApart, distinctNumbers⟩, names,
          numbers⟩
        exact ⟨⟨valid, fun g member => (names g member).1, fun g member => (numbers g member).1⟩,
          valids, distinctNames, distinctNumbers,
          ⟨fun g member same => nameApart g member same.symm, fun g member => (names g member).2⟩,
          fun g member same => numberApart g member same.symm,
          fun g member => (numbers g member).2⟩

theorem valuesDefects_eq_nil_iff {s : Snapshot} {e : EnumType} {earlier values : List EnumValue} :
    s.valuesDefects e earlier values = [] ↔
      (∀ v ∈ values, ValueValid e v) ∧
      (values.map EnumValue.name).Nodup ∧ (values.map EnumValue.number).Nodup ∧
      (∀ w ∈ earlier, ∀ v ∈ values, w.name ≠ v.name) ∧
      ∀ w ∈ earlier, ∀ v ∈ values, w.number ≠ v.number := by
  induction values generalizing earlier with
  | nil => simp [valuesDefects]
  | cons v rest ih =>
      simp only [valuesDefects, List.append_eq_nil_iff, valueDefects_eq_nil_iff, ih,
        List.forall_mem_cons, List.map_cons, List.nodup_cons, List.mem_map, not_exists, not_and]
      constructor
      · rintro ⟨⟨identifier, names, numbers, number, name⟩, valids, distinctNames, distinctNumbers,
          ⟨nameApart, namesApart⟩, numberApart, numbersApart⟩
        exact ⟨⟨⟨identifier, number, name⟩, valids⟩,
          ⟨fun w member same => nameApart w member same.symm, distinctNames⟩,
          ⟨fun w member same => numberApart w member same.symm, distinctNumbers⟩,
          fun w member => ⟨names w member, namesApart w member⟩,
          fun w member => ⟨numbers w member, numbersApart w member⟩⟩
      · rintro ⟨⟨valid, valids⟩, ⟨nameApart, distinctNames⟩, ⟨numberApart, distinctNumbers⟩, names,
          numbers⟩
        exact ⟨⟨valid.identifier, fun w member => (names w member).1,
            fun w member => (numbers w member).1, valid.numberFree, valid.nameFree⟩,
          valids, distinctNames, distinctNumbers,
          ⟨fun w member same => nameApart w member same.symm, fun w member => (names w member).2⟩,
          fun w member same => numberApart w member same.symm,
          fun w member => (numbers w member).2⟩

theorem messageDefects_eq_nil_iff_valid {s : Snapshot} {m : MessageType} :
    s.messageDefects m = [] ↔ s.MessageValid m := by
  rw [messageDefects_eq_nil_iff, fieldsDefects_eq_nil_iff]
  constructor
  · rintro ⟨ranges, fields, names, numbers, -, -⟩
    exact ⟨ranges, fields, names, numbers⟩
  · intro valid
    exact ⟨valid.ranges, valid.fields, valid.distinctNames, valid.distinctNumbers, by simp, by simp⟩

theorem enumDefects_eq_nil_iff_valid {s : Snapshot} {e : EnumType} :
    s.enumDefects e = [] ↔ EnumValid e := by
  rw [enumDefects_eq_nil_iff, valuesDefects_eq_nil_iff]
  constructor
  · rintro ⟨ranges, values, names, numbers, -, -⟩
    exact ⟨ranges, values, names, numbers⟩
  · intro valid
    exact ⟨valid.ranges, valid.values, valid.distinctNames, valid.distinctNumbers, by simp, by simp⟩

theorem defects_eq_nil_iff {s : Snapshot} :
    s.defects = [] ↔ (∀ t ∈ s.types, Identifier.isQualified t.name.toList = true) ∧
      (∀ m, .message m ∈ s.types → s.MessageValid m) ∧ ∀ e, .enum e ∈ s.types → EnumValid e := by
  simp only [defects, List.flatMap_eq_nil_iff, typeDefects_eq_nil_iff,
    messageDefects_eq_nil_iff_valid, enumDefects_eq_nil_iff_valid]
  constructor
  · intro each
    exact ⟨fun t member => (each t member).1, fun m member => (each _ member).2.1 m rfl,
      fun e member => (each _ member).2.2 e rfl⟩
  · rintro ⟨qualified, messages, enums⟩ t member
    exact ⟨qualified t member, fun m same => messages m (same ▸ member),
      fun e same => enums e (same ▸ member)⟩

end Snapshot

namespace Draft

theorem repeatedName?_eq_none_iff {seen : List String} {types : List TypeDef} :
    repeatedName? seen types = none ↔
      (types.map TypeDef.name).Nodup ∧ ∀ t ∈ types, t.name ∉ seen := by
  induction types generalizing seen with
  | nil => simp [repeatedName?]
  | cons t rest ih =>
      simp only [repeatedName?, List.map_cons, List.nodup_cons, List.mem_map, not_exists, not_and,
        List.forall_mem_cons, List.contains_eq_mem, decide_eq_true_eq]
      split
      case isTrue repeated => simp [repeated]
      case isFalse fresh =>
        rw [ih]
        simp only [List.mem_cons, not_or]
        constructor
        · rintro ⟨distinct, apart⟩
          exact ⟨⟨fun u member => (apart u member).1, distinct⟩, fresh,
            fun u member => (apart u member).2⟩
        · rintro ⟨⟨unlike, distinct⟩, -, apart⟩
          exact ⟨distinct, fun u member => ⟨unlike u member, apart u member⟩⟩

theorem pairwise_inOrder {types : List TypeDef} (distinct : (types.map TypeDef.name).Nodup) :
    (inOrder types).Pairwise fun t u => nameBefore t.name u.name = true := by
  have ordered : (inOrder types).Pairwise fun t u => (!nameBefore u.name t.name) = true :=
    Sorted.pairwise_sortStable
      (fun t u w tu uw => by
        simp only [nameBefore, Bool.not_eq_true', decide_eq_false_iff_not, not_lt] at *
        exact le_trans tu uw)
      (fun t u => by
        simp only [nameBefore, Bool.not_eq_true', decide_eq_false_iff_not, not_lt]
        exact le_total t.name u.name)
      types
  have apart : ((inOrder types).map TypeDef.name).Nodup :=
    ((Sorted.sortStable_perm _ types).map TypeDef.name).nodup_iff.mpr distinct
  refine (ordered.and (List.pairwise_map.mp apart)).imp ?_
  rintro t u ⟨notAfter, differ⟩
  simp only [nameBefore, Bool.not_eq_true', decide_eq_false_iff_not, not_lt,
    decide_eq_true_eq] at *
  exact lt_of_le_of_ne notAfter differ

/-- A draft is built exactly if its names are distinct and its types in order have no defect. -/
theorem build_eq_ok_iff {d : Draft} {s : Snapshot} :
    d.build = .ok s ↔
      (d.types.map TypeDef.name).Nodup ∧ s = ⟨d.label, d.version, inOrder d.types⟩ ∧
      s.defects = [] := by
  have distinct : repeatedName? [] d.types = none ↔ _ := repeatedName?_eq_none_iff
  simp only [List.not_mem_nil, not_false_eq_true, implies_true, and_true] at distinct
  rw [← distinct]
  unfold build
  cases repeated : repeatedName? [] d.types with
  | some name => simp
  | none =>
      simp only [true_and]
      constructor
      · intro built
        split at built
        case h_1 clean =>
          cases built
          exact ⟨rfl, clean⟩
        case h_2 => cases built
      · rintro ⟨rfl, clean⟩
        rw [clean]

end Draft

namespace Snapshot

theorem IsBuilt.valid {s : Snapshot} (built : s.IsBuilt) : s.Valid := by
  obtain ⟨d, ok⟩ := built
  obtain ⟨distinct, rfl, clean⟩ := Draft.build_eq_ok_iff.mp ok
  obtain ⟨qualified, messages, enums⟩ := defects_eq_nil_iff.mp clean
  exact ⟨Draft.pairwise_inOrder distinct, qualified, messages, enums⟩

theorem MessageValid.sound {s : Snapshot} {m : MessageType} (valid : s.MessageValid m) :
    Member.Sound m.reserved m.fields where
  identifier f member := (valid.fields f member).identifier
  distinctNames := valid.distinctNames
  distinctNumbers := by
    have natural := valid.distinctNumbers.map (f := fun n : Nat => (n : Int)) Nat.cast_injective
    rwa [List.map_map] at natural
  numberFree f member := (valid.fields f member).numberFree
  nameFree f member := (valid.fields f member).nameFree

theorem EnumValid.sound {e : EnumType} (valid : EnumValid e) :
    Member.Sound e.reserved e.values where
  identifier v member := (valid.values v member).identifier
  distinctNames := valid.distinctNames
  distinctNumbers := valid.distinctNumbers
  numberFree v member := (valid.values v member).numberFree
  nameFree v member := (valid.values v member).nameFree

theorem get?_eq_none_iff {s : Snapshot} {name : String} :
    s.get? name = none ↔ ∀ t ∈ s.types, t.name ≠ name := by
  simp [get?]

theorem mem_of_get? {s : Snapshot} {name : String} {t : TypeDef} (found : s.get? name = some t) :
    t ∈ s.types ∧ t.name = name := by
  have named := List.find?_some found
  exact ⟨List.mem_of_find?_eq_some found, by simpa using named⟩

/-- Where names are distinct, a type is looked up under its name and nowhere else. -/
theorem get?_eq_some_iff {s : Snapshot} (distinct : s.names.Nodup) {name : String} {t : TypeDef} :
    s.get? name = some t ↔ t ∈ s.types ∧ t.name = name :=
  find?_eq_some_iff_of_nodup distinct

theorem Valid.distinct {s : Snapshot} (valid : s.Valid) : s.names.Nodup :=
  Sorted.nodup_of_pairwise nameBefore_isStrictOrder (List.pairwise_map.mpr valid.sorted)

theorem Valid.eq_of_name {s : Snapshot} (valid : s.Valid) {t u : TypeDef} (ht : t ∈ s.types)
    (hu : u ∈ s.types) (same : t.name = u.name) : t = u :=
  List.inj_on_of_nodup_map valid.distinct ht hu same

theorem Valid.get?_of_mem {s : Snapshot} (valid : s.Valid) {name : String} {t : TypeDef}
    (member : t ∈ s.types) (named : t.name = name) : s.get? name = some t :=
  (get?_eq_some_iff valid.distinct).mpr ⟨member, named⟩

theorem Valid.get?_message {s : Snapshot} (valid : s.Valid) {m : MessageType}
    (member : .message m ∈ s.types) : s.get? m.name = some (.message m) :=
  valid.get?_of_mem member rfl

theorem Valid.get?_enum {s : Snapshot} (valid : s.Valid) {e : EnumType}
    (member : .enum e ∈ s.types) : s.get? e.name = some (.enum e) :=
  valid.get?_of_mem member rfl

theorem mem_of_message? {s : Snapshot} {name : String} {m : MessageType}
    (found : s.message? name = some m) : .message m ∈ s.types := by
  obtain ⟨t, atName, isMessage⟩ := Option.bind_eq_some_iff.mp found
  cases t with
  | message _ =>
      cases isMessage
      exact (mem_of_get? atName).1
  | enum _ => cases isMessage

theorem Valid.of_message? {s : Snapshot} (valid : s.Valid) {name : String} {m : MessageType}
    (found : s.message? name = some m) : s.MessageValid m :=
  valid.messages m (mem_of_message? found)

end Snapshot

end SchemaEvolution
