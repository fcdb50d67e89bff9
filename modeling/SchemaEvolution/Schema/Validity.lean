import SchemaEvolution.Schema.Snapshot
import SchemaEvolution.Text.Identifier

/-! # Validity of a snapshot

`defects` lists everything that is wrong with a snapshot, in the order in which it is looked for:
type by type in the order of names, reserved ranges before members, members in the order of
declaration.  A snapshot is valid when the list is empty, and `Draft.build` fails with its head.
-/

namespace SchemaEvolution

/-- A failure, if a condition is violated. -/
private def demand (holds : Bool) (failure : Failure) : List Failure :=
  if holds then [] else [failure]

private theorem demand_eq_nil {holds : Bool} {failure : Failure} :
    demand holds failure = [] ↔ holds = true := by
  cases holds <;> simp [demand]

/-- The first tag number that belongs to implementations. -/
def implementationFirst : Nat := 19000

/-- The last tag number that belongs to implementations. -/
def implementationLast : Nat := 19999

namespace Snapshot

/-- What is wrong with the type that a field refers to. -/
def referenceDefects (s : Snapshot) (path : String) (type : FieldType) : List Failure :=
  match type.target? with
  | none => []
  | some (target, expected) =>
    match s.get? target with
    | none => [.unresolvedReference s.label path target]
    | some found =>
      demand (found.kind == expected)
        (.invalidSnapshot s.label (.wrongKind path expected target found.kind))

/-- What is wrong with a field, given the fields that are declared before it. -/
def fieldDefects (s : Snapshot) (m : MessageType) (earlier : List Field) (f : Field) :
    List Failure :=
  let path := s!"{m.name}.{f.name}"
  let invalid (defect : Defect) : Failure := .invalidSnapshot s.label defect
  demand (Identifier.isIdentifier f.name.toList) (invalid (.fieldName path)) ++
  demand (!earlier.any (·.name == f.name)) (invalid (.fieldNameTwice m.name f.name)) ++
  demand (1 ≤ f.number && f.number ≤ maxTag) (invalid (.tagOutside path f.number)) ++
  demand (f.number < implementationFirst || implementationLast < f.number)
    (invalid (.tagOfImplementation path f.number)) ++
  demand (!earlier.any (·.number == f.number)) (.duplicateTag s.label m.name f.number) ++
  demand (!m.reserved.coversNumber f.number) (invalid (.tagReserved path f.number)) ++
  demand (!m.reserved.coversName f.name) (invalid (.nameReserved path)) ++
  demand (!f.cardinality.isRequired || m.dialect == .proto2)
    (invalid (.requiredForbidden path m.dialect)) ++
  demand (f.default.isNone || m.dialect == .proto2)
    (invalid (.defaultForbidden path m.dialect)) ++
  demand (f.default.isNone || !f.cardinality.isRepeated) (invalid (.defaultOnRepeated path)) ++
  demand (!f.packed || (f.cardinality.isRepeated && f.type.isPackable))
    (invalid (.packedForbidden path)) ++
  s.referenceDefects path f.type

/-- What is wrong with the fields of a message, given the ones that have been looked at. -/
def fieldsDefects (s : Snapshot) (m : MessageType) (earlier : List Field) :
    List Field → List Failure
  | [] => []
  | f :: rest => s.fieldDefects m earlier f ++ s.fieldsDefects m (f :: earlier) rest

/-- Whether a message may reserve a range. -/
def tagRangeValid (r : ReservedRange) : Bool := r.start ≤ r.stop && 1 ≤ r.start && r.stop ≤ maxTag

/-- Whether an enum may reserve a range. -/
def valueRangeValid (r : ReservedRange) : Bool :=
  r.start ≤ r.stop && Digits.int32Min ≤ r.start && r.stop ≤ Digits.int32Max

def messageDefects (s : Snapshot) (m : MessageType) : List Failure :=
  (m.reserved.ranges.flatMap fun r =>
    demand (tagRangeValid r) (.invalidSnapshot s.label (.tagRange m.name r))) ++
  s.fieldsDefects m [] m.fields

/-- What is wrong with an enum value, given the values that are declared before it. -/
def valueDefects (s : Snapshot) (e : EnumType) (earlier : List EnumValue) (v : EnumValue) :
    List Failure :=
  let path := s!"{e.name}.{v.name}"
  let invalid (defect : Defect) : Failure := .invalidSnapshot s.label defect
  demand (Identifier.isIdentifier v.name.toList) (invalid (.valueName path)) ++
  demand (!earlier.any (·.name == v.name)) (invalid (.valueNameTwice e.name v.name)) ++
  demand (!earlier.any (·.number == v.number)) (invalid (.valueNumberTwice e.name v.number)) ++
  demand (!e.reserved.coversNumber v.number && !e.reserved.coversName v.name)
    (invalid (.valueReserved path))

/-- What is wrong with the values of an enum, given the ones that have been looked at. -/
def valuesDefects (s : Snapshot) (e : EnumType) (earlier : List EnumValue) :
    List EnumValue → List Failure
  | [] => []
  | v :: rest => s.valueDefects e earlier v ++ s.valuesDefects e (v :: earlier) rest

def enumDefects (s : Snapshot) (e : EnumType) : List Failure :=
  (e.reserved.ranges.flatMap fun r =>
    demand (valueRangeValid r) (.invalidSnapshot s.label (.valueRange e.name r))) ++
  s.valuesDefects e [] e.values

def typeDefects (s : Snapshot) (t : TypeDef) : List Failure :=
  demand (Identifier.isQualified t.name.toList) (.invalidSnapshot s.label (.typeName t.name)) ++
  match t with
  | .message m => s.messageDefects m
  | .enum e => s.enumDefects e

/-- Everything that is wrong with a snapshot. -/
def defects (s : Snapshot) : List Failure := s.types.flatMap s.typeDefects

theorem referenceDefects_eq_nil_iff {s : Snapshot} {path : String} {type : FieldType} :
    s.referenceDefects path type = [] ↔
      ∀ target expected, type.target? = some (target, expected) →
        ∃ t, s.get? target = some t ∧ t.kind = expected := by
  unfold referenceDefects
  cases type.target? with
  | none => simp
  | some wanted =>
      obtain ⟨target, expected⟩ := wanted
      cases found : s.get? target with
      | none => simp [found]
      | some t => simp [found, demand_eq_nil]

theorem fieldDefects_eq_nil_iff {s : Snapshot} {m : MessageType} {earlier : List Field}
    {f : Field} :
    s.fieldDefects m earlier f = [] ↔
      Identifier.isIdentifier f.name.toList = true ∧
      (∀ g ∈ earlier, g.name ≠ f.name) ∧
      (1 ≤ f.number ∧ f.number ≤ maxTag) ∧
      (f.number < implementationFirst ∨ implementationLast < f.number) ∧
      (∀ g ∈ earlier, g.number ≠ f.number) ∧
      m.reserved.coversNumber f.number = false ∧
      m.reserved.coversName f.name = false ∧
      (f.cardinality.isRequired = true → m.dialect = .proto2) ∧
      (f.default.isSome = true → m.dialect = .proto2) ∧
      (f.default.isSome = true → f.cardinality.isRepeated = false) ∧
      (f.packed = true → f.cardinality.isRepeated = true ∧ f.type.isPackable = true) ∧
      s.referenceDefects s!"{m.name}.{f.name}" f.type = [] := by
  simp only [fieldDefects, List.append_eq_nil_iff, demand_eq_nil]
  cases f.default <;> cases f.packed <;> cases f.cardinality.isRequired <;> simp [and_assoc]

theorem valueDefects_eq_nil_iff {s : Snapshot} {e : EnumType} {earlier : List EnumValue}
    {v : EnumValue} :
    s.valueDefects e earlier v = [] ↔
      Identifier.isIdentifier v.name.toList = true ∧
      (∀ w ∈ earlier, w.name ≠ v.name) ∧
      (∀ w ∈ earlier, w.number ≠ v.number) ∧
      e.reserved.coversNumber v.number = false ∧
      e.reserved.coversName v.name = false := by
  simp [valueDefects, demand_eq_nil]

theorem messageDefects_eq_nil_iff {s : Snapshot} {m : MessageType} :
    s.messageDefects m = [] ↔
      (∀ r ∈ m.reserved.ranges, tagRangeValid r = true) ∧ s.fieldsDefects m [] m.fields = [] := by
  simp [messageDefects, demand_eq_nil]

theorem enumDefects_eq_nil_iff {s : Snapshot} {e : EnumType} :
    s.enumDefects e = [] ↔
      (∀ r ∈ e.reserved.ranges, valueRangeValid r = true) ∧ s.valuesDefects e [] e.values = [] := by
  simp [enumDefects, demand_eq_nil]

theorem typeDefects_eq_nil_iff {s : Snapshot} {t : TypeDef} :
    s.typeDefects t = [] ↔
      Identifier.isQualified t.name.toList = true ∧
      (∀ m, t = .message m → s.messageDefects m = []) ∧
      (∀ e, t = .enum e → s.enumDefects e = []) := by
  cases t <;> simp [typeDefects, demand_eq_nil]

end Snapshot

namespace Draft

/-- Put the types in order and check them.  A repeated name is found before any other defect. -/
def build (d : Draft) : Except Failure Snapshot :=
  match repeatedName? [] d.types with
  | some name => .error (.duplicateType d.label name)
  | none =>
    let s : Snapshot := ⟨d.label, d.version, inOrder d.types⟩
    match s.defects with
    | [] => .ok s
    | failure :: _ => .error failure

end Draft

end SchemaEvolution
