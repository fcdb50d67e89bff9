import SchemaEvolution.Schema.FieldType
import SchemaEvolution.Schema.Reservations

/-! # Messages and enums

The definitions that a schema consists of.  Fields are known on the wire by their tag number and
enum values by their number; the order of declaration is kept but means nothing.
-/

namespace SchemaEvolution

/-- The rules under which a type is written. -/
inductive Dialect
  /-- Required fields and explicit defaults are allowed. -/
  | proto2
  /-- Neither is allowed. -/
  | proto3
deriving Repr, DecidableEq

/-- How often a field occurs. -/
inductive Cardinality
  | singular
  | repeated
  | required
deriving Repr, DecidableEq

/-- A field of a message. -/
structure Field where
  number : Nat
  name : String
  type : FieldType
  cardinality : Cardinality := .singular
  packed : Bool := false
  default : Option String := none
deriving Repr, DecidableEq

/-- A message. -/
structure MessageType where
  name : String
  dialect : Dialect
  fields : List Field
  reserved : Reservations
deriving Repr, DecidableEq

/-- A named constant of an enum. -/
structure EnumValue where
  number : Int
  name : String
deriving Repr, DecidableEq

/-- An enum. -/
structure EnumType where
  name : String
  dialect : Dialect
  values : List EnumValue
  reserved : Reservations
deriving Repr, DecidableEq

/-- A named type. -/
inductive TypeDef
  | message (m : MessageType)
  | enum (e : EnumType)
deriving Repr, DecidableEq

namespace Dialect

def text : Dialect → String
  | proto2 => "proto2"
  | proto3 => "proto3"

end Dialect

namespace Cardinality

def text : Cardinality → String
  | singular => "singular"
  | repeated => "repeated"
  | required => "required"

/-- Whether a field may carry many values. -/
def isRepeated (c : Cardinality) : Bool := c == repeated

/-- Whether a field has to be sent. -/
def isRequired (c : Cardinality) : Bool := c == required

end Cardinality

namespace MessageType

def field? (m : MessageType) (number : Nat) : Option Field :=
  m.fields.find? (·.number == number)

def fieldNamed? (m : MessageType) (name : String) : Option Field :=
  m.fields.find? (·.name == name)

end MessageType

namespace EnumType

def value? (e : EnumType) (number : Int) : Option EnumValue :=
  e.values.find? (·.number == number)

def hasZero (e : EnumType) : Bool := (e.value? 0).isSome

end EnumType

namespace TypeDef

def name : TypeDef → String
  | message m => m.name
  | enum e => e.name

def kind : TypeDef → TypeKind
  | message _ => .message
  | enum _ => .enum

def reserved : TypeDef → Reservations
  | message m => m.reserved
  | enum e => e.reserved

def message? : TypeDef → Option MessageType
  | message m => some m
  | enum _ => none

def enum? : TypeDef → Option EnumType
  | message _ => none
  | enum e => some e

/-- The names that the fields of the type refer to, in the order of declaration. -/
def references : TypeDef → List String
  | message m => m.fields.filterMap (·.type.reference?)
  | enum _ => []

end TypeDef

end SchemaEvolution
