import SchemaEvolution.Schema.Codec
import SchemaEvolution.Json.Assembly

/-! # Descriptor documents

A descriptor lists messages and enums under names that are relative to its package.  `types`
qualifies the names and takes one leading dot off every reference.  A dialect that a declaration
does not state is the one of the document.
-/

namespace SchemaEvolution

/-- A declaration of a message or an enum, with fields or values as its entries. -/
structure Declaration (α : Type) where
  name : String
  dialect : Option Dialect
  entries : List α
  reserved : Reservations
deriving Repr, DecidableEq

/-- A descriptor document. -/
structure Descriptor where
  package : String
  dialect : Dialect
  version : Option String
  messages : List (Declaration Field)
  enums : List (Declaration EnumValue)
deriving Repr, DecidableEq

namespace Declaration

/-- A declaration from JSON, whose entries stand under the given key. -/
def ofJson? {α : Type} (key : String) (item? : Json → Option α) (v : Json) :
    Option (Declaration α) := do
  let members ← Json.record? ["name", "syntax", key, "reserved"] true v
  let name ← members.required? "name" Json.string?
  let dialect ← members.optional? "syntax" (Dialect.ofJson? .plain)
  let entries ← members.withDefault? key [] (Json.list? item?)
  let reserved ← members.withDefault? "reserved" .none Reservations.ofJson?
  return ⟨name, dialect, entries, reserved⟩

end Declaration

namespace Descriptor

def ofJson? (v : Json) : Option Descriptor := do
  let members ← Json.record? ["package", "syntax", "version", "messages", "enums"] true v
  let package ← members.withDefault? "package" "" Json.string?
  let dialect ← members.withDefault? "syntax" .proto2 (Dialect.ofJson? .plain)
  let version ← members.optional? "version" Json.string?
  let messages ← members.withDefault? "messages" []
    (Json.list? (Declaration.ofJson? "fields" (Field.ofJson? .plain)))
  let enums ← members.withDefault? "enums" []
    (Json.list? (Declaration.ofJson? "values" EnumValue.ofJson?))
  return ⟨package, dialect, version, messages, enums⟩

/-- A descriptor from the text of a document. -/
def parse (text : String) : Except Failure Descriptor :=
  match (Json.parse? text).bind ofJson? with
  | some d => .ok d
  | none => .error .malformedJson

def qualify (d : Descriptor) (name : String) : String :=
  if d.package.isEmpty then name else s!"{d.package}.{name}"

/-- A reference without one leading dot. -/
def stripDot (name : String) : String :=
  match name.toList with
  | '.' :: rest => String.ofList rest
  | _ => name

/-- The field with its reference in normal form. -/
def normalize (f : Field) : Field := { f with type := f.type.mapReference stripDot }

/-- The types of a document: its messages, then its enums. -/
def types (d : Descriptor) : List TypeDef :=
  (d.messages.map fun m => .message
    ⟨d.qualify m.name, m.dialect.getD d.dialect, m.entries.map normalize, m.reserved⟩) ++
  (d.enums.map fun e => .enum
    ⟨d.qualify e.name, e.dialect.getD d.dialect, e.entries, e.reserved⟩)

end Descriptor

end SchemaEvolution
