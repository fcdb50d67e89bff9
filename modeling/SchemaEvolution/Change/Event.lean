import SchemaEvolution.Change.Pairing

/-! # Change events

What happened to one type or one member between two revisions.  An event carries no judgement.
-/

namespace SchemaEvolution

/-- What an event is about. -/
inductive Entity
  | message (m : MessageType)
  | enum (e : EnumType)
  | field (owner : MessageType) (f : Field)
  | value (owner : EnumType) (v : EnumValue)
deriving Repr, DecidableEq

/-- What a revision says about a number and a name that it does not use. -/
structure ReservationStatus where
  number : Bool
  name : Bool
deriving Repr, DecidableEq

/-- The parts of a definition that can change. -/
inductive Attribute
  | name
  | type
  | cardinality
  | packed
  | default
  | dialect
  | reservedNumbers
  | reservedNames
  | zeroValue
deriving Repr, DecidableEq

/-- One part of a definition before and after. -/
inductive Change
  /-- The new name may have been reserved before. -/
  | name (old new : String) (previouslyReserved : Bool)
  | type (old new : FieldType)
  | cardinality (old new : Cardinality)
  | packed (old new : Bool)
  | default (old new : Option String)
  | dialect (old new : Dialect)
  | reservedNumbers (added removed : List ReservedRange)
  | reservedNames (added removed : List String)
  | zeroValue (old new : Bool)
deriving Repr, DecidableEq

/-- Two revisions of one thing. -/
inductive Revision
  | messages (old new : MessageType)
  | enums (old new : EnumType)
  | fields (oldOwner newOwner : MessageType) (old new : Field)
  | values (oldOwner newOwner : EnumType) (old new : EnumValue)
deriving Repr, DecidableEq

/-- A change of one type or one member. -/
inductive ChangeEvent
  /-- Only in the new revision; says what the old one reserved. -/
  | added (entity : Entity) (before : ReservationStatus)
  /-- Only in the old revision; says what the new one reserves. -/
  | removed (entity : Entity) (after : ReservationStatus)
  /-- In both.  The changes of a type are empty if only its members changed. -/
  | modified (revision : Revision) (changes : List Change)
deriving Repr, DecidableEq

namespace Entity

/-- A type as the subject of an event. -/
def ofType : TypeDef → Entity
  | .message m => message m
  | .enum e => enum e

/-- The name of the entity within its owner. -/
def name : Entity → String
  | message m => m.name
  | enum e => e.name
  | field _ f => f.name
  | value _ v => v.name

/-- The name of the entity behind the name of its owner. -/
def path : Entity → String
  | message m => m.name
  | enum e => e.name
  | field owner f => s!"{owner.name}.{f.name}"
  | value owner v => s!"{owner.name}.{v.name}"

def number? : Entity → Option Int
  | message _ | enum _ => none
  | field _ f => some f.number
  | value _ v => some v.number

/-- What messages call an entity of this sort. -/
def sort : Entity → String
  | message _ => "message"
  | enum _ => "enum"
  | field _ _ => "field"
  | value _ _ => "enum value"

def isType : Entity → Bool
  | message _ | enum _ => true
  | field _ _ | value _ _ => false

end Entity

namespace ReservationStatus

/-- Types are never reserved. -/
def clear : ReservationStatus := ⟨false, false⟩

/-- What reservations say about a number and a name. -/
def of (reserved : Reservations) (number : Int) (name : String) : ReservationStatus :=
  ⟨reserved.coversNumber number, reserved.coversName name⟩

end ReservationStatus

namespace Attribute

/-- Every attribute, in the order in which events list them. -/
def all : List Attribute :=
  [name, type, cardinality, packed, default, dialect, reservedNumbers, reservedNames, zeroValue]

/-- The words that an attribute is called by. -/
def words : Attribute → List String
  | name => ["name"]
  | type => ["type"]
  | cardinality => ["cardinality"]
  | packed => ["packed"]
  | default => ["default"]
  | dialect => ["syntax"]
  | reservedNumbers => ["reserved", "numbers"]
  | reservedNames => ["reserved", "names"]
  | zeroValue => ["enum", "zero", "value"]

end Attribute

namespace Change

/-- The part that a change is about. -/
def part : Change → Attribute
  | name _ _ _ => .name
  | type _ _ => .type
  | cardinality _ _ => .cardinality
  | packed _ _ => .packed
  | default _ _ => .default
  | dialect _ _ => .dialect
  | reservedNumbers _ _ => .reservedNumbers
  | reservedNames _ _ => .reservedNames
  | zeroValue _ _ => .zeroValue

/-- The parts that a list of changes is about, in the order of attributes. -/
def attributes (changes : List Change) : List Attribute :=
  Attribute.all.filter fun a => changes.any (·.part == a)

end Change

namespace Revision

def old : Revision → Entity
  | messages old _ => .message old
  | enums old _ => .enum old
  | fields oldOwner _ old _ => .field oldOwner old
  | values oldOwner _ old _ => .value oldOwner old

def new : Revision → Entity
  | messages _ new => .message new
  | enums _ new => .enum new
  | fields _ newOwner _ new => .field newOwner new
  | values _ newOwner _ new => .value newOwner new

end Revision

namespace ChangeEvent

/-- The entity after the change, or before it if it is gone. -/
def entity : ChangeEvent → Entity
  | added entity _ | removed entity _ => entity
  | modified revision _ => revision.new

def path (event : ChangeEvent) : String := event.entity.path

/-- The event on one line: a mark, the path, and the attributes that changed. -/
def text (event : ChangeEvent) : String :=
  match event with
  | added _ _ => s!"+ {event.path}"
  | removed _ _ => s!"- {event.path}"
  | modified _ changes =>
    let labels := (Change.attributes changes).map fun a => String.join a.words
    let listed := String.intercalate ", " labels
    s!"~ {event.path} [{listed}]"

end ChangeEvent

end SchemaEvolution
