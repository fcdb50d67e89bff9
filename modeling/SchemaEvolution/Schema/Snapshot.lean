import SchemaEvolution.Failure

/-! # Snapshots

One revision of a schema: every type under its qualified name, in the order of names.  A `Draft`
collects types in the order in which they come; `Validity` turns it into a snapshot.
-/

namespace SchemaEvolution

/-- One revision of a schema. -/
structure Snapshot where
  label : String
  version : Option Version
  /-- The types in the order of their names. -/
  types : List TypeDef
deriving Repr, DecidableEq

namespace Snapshot

def get? (s : Snapshot) (name : String) : Option TypeDef := s.types.find? (·.name == name)

def message? (s : Snapshot) (name : String) : Option MessageType :=
  (s.get? name).bind TypeDef.message?

def enum? (s : Snapshot) (name : String) : Option EnumType :=
  (s.get? name).bind TypeDef.enum?

def has (s : Snapshot) (name : String) : Bool := (s.get? name).isSome

/-- The names of the types, in order. -/
def names (s : Snapshot) : List String := s.types.map TypeDef.name

end Snapshot

/-- Types on their way into a snapshot. -/
structure Draft where
  label : String
  version : Option Version := none
  /-- The types in the order in which they came. -/
  types : List TypeDef := []
deriving Repr, DecidableEq

namespace Draft

/-- The draft with further types behind the ones it has. -/
def add (d : Draft) (types : List TypeDef) : Draft := { d with types := d.types ++ types }

/-- The first name that an earlier type has already. -/
def repeatedName? (seen : List String) : List TypeDef → Option String
  | [] => none
  | t :: rest => if seen.contains t.name then some t.name else repeatedName? (t.name :: seen) rest

/-- The types in the order of names. -/
def inOrder (types : List TypeDef) : List TypeDef :=
  Sorted.sortStable (fun a b => !nameBefore b.name a.name) types

end Draft

end SchemaEvolution
