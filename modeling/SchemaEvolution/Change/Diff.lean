import SchemaEvolution.Change.Event

/-! # Differences of two revisions

The events that lead from one definition to another.  An event of the type itself comes first,
events of its members follow in the order of their numbers.  A name that passes from a message to
an enum, or back, is a removal and an addition.
-/

namespace SchemaEvolution

/-- How many entities were added, removed and modified. -/
structure DiffStats where
  added : Nat
  removed : Nat
  modified : Nat
deriving Repr, DecidableEq

/-- The events of one name. -/
structure TypeDiff where
  name : String
  events : List ChangeEvent
deriving Repr, DecidableEq

namespace DiffStats

def zero : DiffStats := ⟨0, 0, 0⟩

/-- Counts of two disjoint sets of events. -/
def add (a b : DiffStats) : DiffStats :=
  ⟨a.added + b.added, a.removed + b.removed, a.modified + b.modified⟩

instance : Add DiffStats := ⟨add⟩

def hasChanges (s : DiffStats) : Bool := 0 < s.added + s.removed + s.modified

/-- What one event counts for.  A type with no change of its own counts for nothing. -/
def ofEvent : ChangeEvent → DiffStats
  | .added _ _ => ⟨1, 0, 0⟩
  | .removed _ _ => ⟨0, 1, 0⟩
  | .modified _ changes => if changes.isEmpty then zero else ⟨0, 0, 1⟩

/-- What a list of events counts for. -/
def ofEvents (events : List ChangeEvent) : DiffStats :=
  events.foldr (fun event rest => ofEvent event + rest) zero

def sum (stats : List DiffStats) : DiffStats := stats.foldr (· + ·) zero

end DiffStats

namespace Reservations

/-- The ranges of the first set of ranges that the second one does not list. -/
def rangesWithout (r other : Reservations) : List ReservedRange :=
  r.rangeSet.filter fun range => !other.rangeSet.contains range

def changes (old new : Reservations) : List Change :=
  (if old.rangeSet = new.rangeSet then []
    else [.reservedNumbers (new.rangesWithout old) (old.rangesWithout new)]) ++
  (if old.names = new.names then []
    else [.reservedNames (new.names.without old.names) (old.names.without new.names)])

end Reservations

namespace Field

/-- How two fields under one tag differ; the old message reserves some names. -/
def changes (reserved : Reservations) (old new : Field) : List Change :=
  (if old.name = new.name then [] else [.name old.name new.name (reserved.coversName new.name)]) ++
  (if old.type = new.type then [] else [.type old.type new.type]) ++
  (if old.cardinality = new.cardinality then []
    else [.cardinality old.cardinality new.cardinality]) ++
  (if old.packed = new.packed then [] else [.packed old.packed new.packed]) ++
  (if old.default = new.default then [] else [.default old.default new.default])

end Field

namespace EnumValue

/-- How two values under one number differ; the old enum reserves some names. -/
def changes (reserved : Reservations) (old new : EnumValue) : List Change :=
  if old.name = new.name then [] else [.name old.name new.name (reserved.coversName new.name)]

end EnumValue

namespace MessageType

/-- How two messages differ, their fields aside. -/
def changes (old new : MessageType) : List Change :=
  (if old.dialect = new.dialect then [] else [.dialect old.dialect new.dialect]) ++
  old.reserved.changes new.reserved

end MessageType

namespace EnumType

/-- How two enums differ, their values aside. -/
def changes (old new : EnumType) : List Change :=
  (if old.dialect = new.dialect then [] else [.dialect old.dialect new.dialect]) ++
  (if old.hasZero = new.hasZero then [] else [.zeroValue old.hasZero new.hasZero]) ++
  old.reserved.changes new.reserved

end EnumType

namespace ChangeEvent

/-- The event of one field, if there is one. -/
def ofField? (old new : MessageType) : Int × NumberPair Field → Option ChangeEvent
  | (_, .matched f g) =>
    let changes := f.changes old.reserved g
    if changes.isEmpty then none else some (.modified (.fields old new f g) changes)
  | (number, .added g _) =>
    some (.added (.field new g) (.of old.reserved number g.name))
  | (number, .removed f _) =>
    some (.removed (.field old f) (.of new.reserved number f.name))

/-- The event of one enum value, if there is one. -/
def ofValue? (old new : EnumType) : Int × NumberPair EnumValue → Option ChangeEvent
  | (_, .matched v w) =>
    let changes := v.changes old.reserved w
    if changes.isEmpty then none else some (.modified (.values old new v w) changes)
  | (number, .added w _) =>
    some (.added (.value new w) (.of old.reserved number w.name))
  | (number, .removed v _) =>
    some (.removed (.value old v) (.of new.reserved number v.name))

/-- The event of a type in front of the events of its members, if there is any. -/
def withType (revision : Revision) (changes : List Change) (members : List ChangeEvent) :
    List ChangeEvent :=
  if changes.isEmpty && members.isEmpty then [] else .modified revision changes :: members

/-- The events that lead from one message to another. -/
def ofMessages (old new : MessageType) : List ChangeEvent :=
  withType (.messages old new) (old.changes new)
    ((Member.pairs old.reserved new.reserved old.fields new.fields).filterMap (ofField? old new))

/-- The events that lead from one enum to another. -/
def ofEnums (old new : EnumType) : List ChangeEvent :=
  withType (.enums old new) (old.changes new)
    ((Member.pairs old.reserved new.reserved old.values new.values).filterMap (ofValue? old new))

def ofTypes : Option TypeDef → Option TypeDef → List ChangeEvent
  | none, none => []
  | none, some new => [.added (.ofType new) .clear]
  | some old, none => [.removed (.ofType old) .clear]
  | some (.message old), some (.message new) => ofMessages old new
  | some (.enum old), some (.enum new) => ofEnums old new
  | some old, some new => [.removed (.ofType old) .clear, .added (.ofType new) .clear]

end ChangeEvent

namespace TypeDiff

def of (pair : TypePair) : TypeDiff := ⟨pair.name, ChangeEvent.ofTypes pair.old pair.new⟩

def isEmpty (d : TypeDiff) : Bool := d.events.isEmpty

def stats (d : TypeDiff) : DiffStats := .ofEvents d.events

end TypeDiff

end SchemaEvolution
