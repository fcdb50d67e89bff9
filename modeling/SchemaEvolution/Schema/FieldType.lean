/-! # Field types

The declared type of a field: a scalar, or a reference to a message, an enum or a group by its
qualified name.  The wire type is the family of encodings that a reader sees in the bytes.
-/

namespace SchemaEvolution

/-- Scalar types. -/
inductive Scalar
  | int32
  | int64
  | uint32
  | uint64
  | sint32
  | sint64
  | fixed32
  | fixed64
  | sfixed32
  | sfixed64
  | float
  | double
  | bool
  | string
  | bytes
deriving Repr, DecidableEq

/-- The declared type of a field. -/
inductive FieldType
  | scalar (kind : Scalar)
  | message (name : String)
  | enum (name : String)
  /-- A message between two delimiters in place of a length in front. -/
  | group (name : String)
deriving Repr, DecidableEq

/-- The family of encodings on the wire. -/
inductive WireType
  | varint
  | fixed64
  | lengthDelimited
  | group
  | fixed32
deriving Repr, DecidableEq

/-- What a named type is. -/
inductive TypeKind
  | message
  | enum
deriving Repr, DecidableEq

namespace Scalar

/-- Every scalar type, in the order of declaration. -/
def all : List Scalar :=
  [int32, int64, uint32, uint64, sint32, sint64, fixed32, fixed64, sfixed32, sfixed64, float,
   double, bool, string, bytes]

def text : Scalar → String
  | int32 => "int32"
  | int64 => "int64"
  | uint32 => "uint32"
  | uint64 => "uint64"
  | sint32 => "sint32"
  | sint64 => "sint64"
  | fixed32 => "fixed32"
  | fixed64 => "fixed64"
  | sfixed32 => "sfixed32"
  | sfixed64 => "sfixed64"
  | float => "float"
  | double => "double"
  | bool => "bool"
  | string => "string"
  | bytes => "bytes"

def wireType : Scalar → WireType
  | int32 | int64 | uint32 | uint64 | sint32 | sint64 | bool => .varint
  | fixed64 | sfixed64 | double => .fixed64
  | fixed32 | sfixed32 | float => .fixed32
  | string | bytes => .lengthDelimited

end Scalar

namespace TypeKind

def text : TypeKind → String
  | message => "message"
  | enum => "enum"

end TypeKind

namespace FieldType

def text : FieldType → String
  | scalar kind => kind.text
  | message name => s!"message {name}"
  | enum name => s!"enum {name}"
  | group name => s!"group {name}"

/-- The wire type of a field type. -/
def wireType : FieldType → WireType
  | scalar kind => kind.wireType
  | message _ => .lengthDelimited
  | enum _ => .varint
  | group _ => .group

/-- Whether repeated values may share one length prefix. -/
def isPackable (t : FieldType) : Bool :=
  t.wireType == .varint || t.wireType == .fixed32 || t.wireType == .fixed64

/-- The name of the type that is referred to. -/
def reference? : FieldType → Option String
  | scalar _ => none
  | message name | enum name | group name => some name

/-- The name that is referred to, and the kind of type that it has to have. -/
def target? : FieldType → Option (String × TypeKind)
  | scalar _ => none
  | message name | group name => some (name, .message)
  | enum name => some (name, .enum)

/-- Whether two types differ at most in the name that they refer to. -/
def sameFamily : FieldType → FieldType → Bool
  | scalar a, scalar b => a == b
  | message _, message _ | enum _, enum _ | group _, group _ => true
  | _, _ => false

/-- The type with a function applied to the name that it refers to. -/
def mapReference (f : String → String) : FieldType → FieldType
  | scalar kind => scalar kind
  | message name => message (f name)
  | enum name => enum (f name)
  | group name => group (f name)

end FieldType

end SchemaEvolution
