import SchemaEvolution.Schema.FieldType

/-! # Conversions on the wire

Which scalar types a reader may exchange without an error, and what becomes of the values.  Only
varints convert.  `compare` extends the table to references and groups.
-/

namespace SchemaEvolution

/-- What becomes of the values that an old writer sends. -/
inductive Conversion
  /-- Every value is read unchanged. -/
  | widening
  /-- The bits are kept and the sign changes its meaning. -/
  | reinterpreting
  /-- Large values are cut. -/
  | narrowing
deriving Repr, DecidableEq

/-- How two field types compare. -/
inductive TypeComparison
  | same
  | convertible (conversion : Conversion)
  /-- References to two messages or two enums; their definitions decide. -/
  | structural
  | incompatible
deriving Repr, DecidableEq

/-- Why two types cannot be compared. -/
inductive WireFault
  | unclassifiable (old new : FieldType)
  | missingType (name : String)
deriving Repr, DecidableEq

namespace Conversion

def text : Conversion → String
  | widening => "widening"
  | reinterpreting => "reinterpreting"
  | narrowing => "narrowing"

def table : List (Scalar × Scalar × Conversion) :=
  [(.int32, .uint32, .reinterpreting),
   (.int32, .int64, .widening),
   (.int32, .uint64, .widening),
   (.int32, .bool, .narrowing),
   (.uint32, .int32, .reinterpreting),
   (.uint32, .int64, .widening),
   (.uint32, .uint64, .widening),
   (.uint32, .bool, .narrowing),
   (.int64, .int32, .narrowing),
   (.int64, .uint32, .narrowing),
   (.int64, .uint64, .reinterpreting),
   (.int64, .bool, .narrowing),
   (.uint64, .int32, .narrowing),
   (.uint64, .uint32, .narrowing),
   (.uint64, .int64, .reinterpreting),
   (.uint64, .bool, .narrowing),
   (.bool, .int32, .widening),
   (.bool, .uint32, .widening),
   (.bool, .int64, .widening),
   (.bool, .uint64, .widening),
   (.sint32, .sint64, .widening),
   (.sint64, .sint32, .narrowing)]

/-- The conversion from one scalar to another. -/
def find? (old new : Scalar) : Option Conversion :=
  (table.find? fun entry => entry.1 == old && entry.2.1 == new).map (·.2.2)

end Conversion

namespace WireFault

def message : WireFault → String
  | unclassifiable old new => s!"no compatibility entry for {old.text} -> {new.text}"
  | missingType name => s!"type {name} is not present in the snapshot"

end WireFault

namespace FieldType

def isGroup : FieldType → Bool
  | group _ => true
  | _ => false

/-- The conversion from one type to another; only scalars convert. -/
def conversion? : FieldType → FieldType → Option Conversion
  | scalar old, scalar new => Conversion.find? old new
  | _, _ => none

/-- How two types compare.  A group compares only with itself. -/
def compare (old new : FieldType) : Except WireFault TypeComparison :=
  if old = new then .ok .same
  else if old.isGroup || new.isGroup then .error (.unclassifiable old new)
  else if old.sameFamily new then .ok .structural
  else .ok (((old.conversion? new).map TypeComparison.convertible).getD .incompatible)

/-- Whether one field could carry both types; a renamed field whose types fail this is another
    field under the same tag. -/
def wireRelated (old new : FieldType) : Bool :=
  old.sameFamily new || (old.conversion? new).isSome

end FieldType

end SchemaEvolution
