import SchemaEvolution.Schema.Snapshot
import SchemaEvolution.Json.Decode
import SchemaEvolution.Digest.Checksum

/-! # Schemas in JSON

How definitions are written to JSON and read back.  Written are the members that carry something:
no packed flag that is off, no absent default and no empty reservation.  The fingerprint of a
snapshot is the checksum of its types under their names.
-/

namespace SchemaEvolution

namespace Dialect

def table : List (String × Dialect) := [("proto2", proto2), ("proto3", proto3)]

def ofJson? (enclosure : Json.Enclosure) : Json → Option Dialect := Json.variant? enclosure table

end Dialect

namespace Cardinality

def table : List (String × Cardinality) :=
  [("singular", singular), ("repeated", repeated), ("required", required)]

def ofJson? (enclosure : Json.Enclosure) : Json → Option Cardinality :=
  Json.variant? enclosure table

end Cardinality

namespace FieldType

/-- A field type in JSON: a keyword, or one member that says what a name refers to. -/
def toJson : FieldType → Json
  | scalar kind => .string kind.text
  | message name => .object [("message", .string name)]
  | enum name => .object [("enum", .string name)]
  | group name => .object [("group", .string name)]

def ofJson? (enclosure : Json.Enclosure) : Json → Option FieldType
  | .object [("message", .string name)] => some (message name)
  | .object [("enum", .string name)] => some (enum name)
  | .object [("group", .string name)] => some (group name)
  | v => (Json.variant? enclosure (Scalar.all.map fun kind => (kind.text, kind)) v).map scalar

end FieldType

namespace ReservedRange

def toJson (r : ReservedRange) : Json :=
  .object [("start", .int r.start), ("end", .int r.stop)]

/-- A range from JSON: one number, or its two ends. -/
def ofJson? (v : Json) : Option ReservedRange :=
  let number? := Json.intWithin? Digits.int64Min Digits.int64Max
  match v with
  | .number _ => (number? v).map single
  | .object _ => do
    let members ← Json.record? ["start", "end"] false v
    let start ← members.required? "start" number?
    let stop ← members.required? "end" number?
    return ⟨start, stop⟩
  | _ => Option.none

end ReservedRange

namespace Reservations

def toJson (r : Reservations) : Json :=
  .object <|
    (if r.ranges.isEmpty then [] else [("ranges", .array (r.ranges.map ReservedRange.toJson))]) ++
    (if r.names.isEmpty then [] else [("names", .strings r.names.toList)])

def ofJson? (v : Json) : Option Reservations := do
  let members ← Json.record? ["ranges", "names"] true v
  let ranges ← members.withDefault? "ranges" [] (Json.list? ReservedRange.ofJson?)
  let names ← members.withDefault? "names" [] (Json.list? Json.string?)
  return ⟨ranges, .ofList names⟩

/-- The member that holds reservations, unless they are empty. -/
def toMembers (r : Reservations) : Json.Members :=
  if r.isEmpty then [] else [("reserved", r.toJson)]

end Reservations

namespace Field

/-- The members of a field, in the order of declaration. -/
def keys : List String := ["number", "name", "type", "cardinality", "packed", "default"]

def toJson (f : Field) : Json :=
  .object <|
    [("number", .nat f.number), ("name", .string f.name), ("type", f.type.toJson),
     ("cardinality", .string f.cardinality.text)] ++
    (if f.packed then [("packed", .bool true)] else []) ++
    (match f.default with
      | none => []
      | some text => [("default", .string text)])

def number? (v : Json) : Option Nat := (Json.intWithin? 0 Digits.word32Max v).map Int.toNat

def ofJson? (enclosure : Json.Enclosure) (v : Json) : Option Field := do
  let members ← Json.record? keys true v
  let number ← members.required? "number" number?
  let name ← members.required? "name" Json.string?
  let type ← members.required? "type" (FieldType.ofJson? enclosure)
  let cardinality ← members.withDefault? "cardinality" .singular (Cardinality.ofJson? enclosure)
  let packed ← members.withDefault? "packed" false Json.bool?
  let default ← members.optional? "default" Json.string?
  return ⟨number, name, type, cardinality, packed, default⟩

end Field

namespace EnumValue

def toJson (v : EnumValue) : Json :=
  .object [("number", .int v.number), ("name", .string v.name)]

/-- The number of an enum value from JSON. -/
def number? : Json → Option Int := Json.intWithin? Digits.int32Min Digits.int32Max

def ofJson? (v : Json) : Option EnumValue := do
  let members ← Json.record? ["number", "name"] true v
  let number ← members.required? "number" number?
  let name ← members.required? "name" Json.string?
  return ⟨number, name⟩

end EnumValue

namespace MessageType

/-- A message from JSON, out of a record whose tag is the kind of type. -/
def ofJson? (v : Json) : Option MessageType := do
  let members ← Json.record? ["name", "syntax", "fields", "reserved"] false v
  let name ← members.required? "name" Json.string?
  let dialect ← members.withDefault? "syntax" .proto2 (Dialect.ofJson? .tagged)
  let fields ← members.withDefault? "fields" [] (Json.list? (Field.ofJson? .tagged))
  let reserved ← members.withDefault? "reserved" .none Reservations.ofJson?
  return ⟨name, dialect, fields, reserved⟩

end MessageType

namespace EnumType

/-- An enum from JSON, out of a record whose tag is the kind of type. -/
def ofJson? (v : Json) : Option EnumType := do
  let members ← Json.record? ["name", "syntax", "values", "reserved"] false v
  let name ← members.required? "name" Json.string?
  let dialect ← members.withDefault? "syntax" .proto2 (Dialect.ofJson? .tagged)
  let values ← members.withDefault? "values" [] (Json.list? EnumValue.ofJson?)
  let reserved ← members.withDefault? "reserved" .none Reservations.ofJson?
  return ⟨name, dialect, values, reserved⟩

end EnumType

namespace TypeDef

/-- A type in JSON, with its kind as a tag. -/
def toJson : TypeDef → Json
  | message m => .object <|
    [("kind", .string "message"), ("name", .string m.name), ("syntax", .string m.dialect.text),
     ("fields", .array (m.fields.map Field.toJson))] ++ m.reserved.toMembers
  | enum e => .object <|
    [("kind", .string "enum"), ("name", .string e.name), ("syntax", .string e.dialect.text),
     ("values", .array (e.values.map EnumValue.toJson))] ++ e.reserved.toMembers

def ofJson? (v : Json) : Option TypeDef := do
  let (tag, rest) ← Json.tagged? "kind" v
  match tag with
  | .string "message" => (MessageType.ofJson? rest).map message
  | .string "enum" => (EnumType.ofJson? rest).map enum
  | _ => none

end TypeDef

namespace Snapshot

def typesJson (s : Snapshot) : Json := .object (s.types.map fun t => (t.name, t.toJson))

def toJson (s : Snapshot) : Json :=
  .object <|
    [("label", .string s.label)] ++
    (match s.version with
      | none => []
      | some v => [("version", .string v.text)]) ++
    [("types", s.typesJson)]

/-- The text that the fingerprint is taken of: the types without blanks, all keys in order. -/
def fingerprintText (s : Snapshot) : String := s.typesJson.sorted.compact

/-- The fingerprint of a snapshot, which depends on its types only. -/
def checksum (s : Snapshot) : Checksum := .ofText s.fingerprintText

end Snapshot

end SchemaEvolution
