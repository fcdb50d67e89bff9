import SchemaEvolution.Schema.Snapshot

/-! # Pairing

What a thing before a change and a thing after it have in common: types their qualified name,
fields their tag number, enum values their number.  Declaration order and member names play no
part.
-/

namespace SchemaEvolution

/-- Things that are known by a number within a type. -/
class Member (α : Type) where
  number : α → Int
  name : α → String

instance : Member Field := ⟨fun f => f.number, Field.name⟩

instance : Member EnumValue := ⟨EnumValue.number, EnumValue.name⟩

/-- What becomes of a number. -/
inductive NumberPair (α : Type)
  /-- In use before and after. -/
  | matched (old new : α)
  /-- In use only after; it may have been reserved before. -/
  | added (new : α) (previouslyReserved : Bool)
  /-- In use only before; it may be reserved after. -/
  | removed (old : α) (reserved : Bool)
deriving Repr, DecidableEq

namespace NumberPair

def old? {α : Type} : NumberPair α → Option α
  | matched old _ | removed old _ => some old
  | added _ _ => none

def new? {α : Type} : NumberPair α → Option α
  | matched _ new | added new _ => some new
  | removed _ _ => none

/-- How the members that may have a number pair up. -/
def of? {α : Type} (number : Int) (before after : Reservations) :
    Option α → Option α → Option (NumberPair α)
  | some old, some new => some (.matched old new)
  | none, some new => some (.added new (before.coversNumber number))
  | some old, none => some (.removed old (after.coversNumber number))
  | none, none => none

end NumberPair

namespace Member

variable {α : Type} [Member α]

def find? (members : List α) (n : Int) : Option α := members.find? (number · == n)

/-- Every number that some member of either list has, in order. -/
def numbers (old new : List α) : List Int :=
  Sorted.sortDistinct (fun a b => decide (a < b)) (old.map number ++ new.map number)

/-- The pairs of two lists of members, in the order of numbers. -/
def pairs (before after : Reservations) (old new : List α) : List (Int × NumberPair α) :=
  (numbers old new).filterMap fun n =>
    (NumberPair.of? n before after (find? old n) (find? new n)).map (n, ·)

end Member

/-- The definitions that two revisions have under one name. -/
structure TypePair where
  name : String
  old : Option TypeDef
  new : Option TypeDef
deriving Repr, DecidableEq

namespace TypePair

/-- One pair for each name in either revision, in the order of names. -/
def all (base candidate : Snapshot) : List TypePair :=
  (Sorted.sortDistinct nameBefore (base.names ++ candidate.names)).map fun name =>
    ⟨name, base.get? name, candidate.get? name⟩

end TypePair

end SchemaEvolution
