import SchemaEvolution.Proofs.Change.Happening

/-! # Renamed fields

A snapshot whose fields are called otherwise and that is the same in everything else: its types
correspond one by one, and so do the fields of its messages.  Nothing happens to a message that is
renamed but that its fields get other names (`MessageType.Renamed.renames_of_happens`).
-/

namespace SchemaEvolution

/-- Two fields that differ at most in their names. -/
def Field.Renamed (f g : Field) : Prop := g = { f with name := g.name }

/-- Two messages that differ at most in the names of their fields. -/
structure MessageType.Renamed (old new : MessageType) : Prop where
  name : old.name = new.name
  dialect : old.dialect = new.dialect
  reserved : old.reserved = new.reserved
  fields : List.Forall₂ Field.Renamed old.fields new.fields

inductive TypeDef.Renamed : TypeDef → TypeDef → Prop
  | message {old new : MessageType} (renamed : old.Renamed new) :
      Renamed (.message old) (.message new)
  | enum (e : EnumType) : Renamed (.enum e) (.enum e)

/-- Two snapshots whose types differ at most in the names of fields. -/
def Snapshot.Renamed (base candidate : Snapshot) : Prop :=
  List.Forall₂ TypeDef.Renamed base.types candidate.types

namespace Field.Renamed

variable {f g : Field} (renamed : f.Renamed g)
include renamed

theorem number_eq : f.number = g.number := by rw [renamed]

theorem type_eq : f.type = g.type := by rw [renamed]

theorem cardinality_eq : f.cardinality = g.cardinality := by rw [renamed]

theorem default_eq : f.default = g.default := by rw [renamed]

theorem eq_of_name (same : f.name = g.name) : f = g := by rw [renamed, ← same]

/-- A name is all that can change. -/
theorem changes_eq (reserved : Reservations) :
    f.changes reserved g =
      if f.name = g.name then []
      else [.name f.name g.name (reserved.coversName g.name)] := by
  have packed : f.packed = g.packed := by rw [renamed]
  simp [changes, renamed.type_eq, renamed.cardinality_eq, renamed.default_eq, packed]

end Field.Renamed

namespace TypeDef.Renamed

variable {t u : TypeDef} (renamed : t.Renamed u)
include renamed

theorem name_eq : t.name = u.name := by
  cases renamed with
  | message renamed => exact renamed.name
  | enum => rfl

theorem kind_eq : t.kind = u.kind := by cases renamed <;> rfl

end TypeDef.Renamed

theorem MessageType.Renamed.changes_eq_nil {old new : MessageType} (renamed : old.Renamed new) :
    old.changes new = [] := by
  simp [changes, renamed.dialect, renamed.reserved, Reservations.changes]

/-- An event that tells of other names of fields and of nothing else. -/
inductive ChangeEvent.Renames : ChangeEvent → Prop
  | message {old new : MessageType} (renamed : old.Renamed new) :
      Renames (.modified (.messages old new) [])
  | field {old new : MessageType} {f g : Field} (renamed : f.Renamed g) :
      Renames (.modified (.fields old new f g) [.name f.name g.name false])

/-- All that happens to a field is that it gets another name, and the old message does not reserve
    that name. -/
theorem MessageType.Renamed.renames_of_happens {old new : MessageType} (renamed : old.Renamed new)
    (soundNew : Member.Sound new.reserved new.fields) {event : ChangeEvent}
    (happens : FieldHappens old new event) : event.Renames := by
  cases happens with
  | @modified f g before after same changed =>
      obtain ⟨h, inside, counterpart⟩ := exists_of_mem_left renamed.fields before
      obtain rfl : h = g := soundNew.eq_of_number inside after
        (congrArg Int.ofNat (counterpart.number_eq.symm.trans same))
      have free : old.reserved.coversName h.name = false := by
        rw [renamed.reserved]
        exact soundNew.nameFree h after
      rw [counterpart.changes_eq, ite_ne_left_iff] at changed
      rw [counterpart.changes_eq, if_neg changed.1, free]
      exact .field counterpart
  | added after fresh =>
      obtain ⟨f, inside, counterpart⟩ := exists_of_mem_right renamed.fields after
      exact absurd counterpart.number_eq (fresh f inside)
  | removed before gone =>
      obtain ⟨g, inside, counterpart⟩ := exists_of_mem_left renamed.fields before
      exact absurd counterpart.number_eq.symm (gone g inside)

/-- Where nothing happens to any field, each keeps its name. -/
theorem MessageType.Renamed.eq_of_nothing {old new : MessageType} (renamed : old.Renamed new)
    (nothing : ∀ event, ¬ FieldHappens old new event) : old = new := by
  have fields : old.fields = new.fields := by
    refine eq_of_forall₂ renamed.fields fun f before g after counterpart => ?_
    by_contra differ
    refine nothing _ (.modified before after counterpart.number_eq ?_)
    rw [counterpart.changes_eq, if_neg fun same => differ (counterpart.eq_of_name same)]
    exact List.cons_ne_nil _ _
  obtain ⟨name, dialect, reserved, -⟩ := renamed
  cases old
  cases new
  simp_all

section Snapshots

variable {base candidate : Snapshot} (renamed : base.Renamed candidate)
  (validCandidate : candidate.Valid)
include renamed validCandidate

/-- A type of the candidate is the counterpart of the type of its name. -/
theorem Snapshot.Renamed.of_name {t u : TypeDef} (before : t ∈ base.types)
    (after : u ∈ candidate.types) (same : t.name = u.name) : t.Renamed u := by
  obtain ⟨v, inside, counterpart⟩ := exists_of_mem_left renamed before
  rwa [validCandidate.eq_of_name inside after (counterpart.name_eq.symm.trans same)] at counterpart

theorem Snapshot.Renamed.message {old new : MessageType} (before : .message old ∈ base.types)
    (after : .message new ∈ candidate.types) (same : old.name = new.name) : old.Renamed new := by
  cases renamed.of_name validCandidate before after same with
  | message renamed => exact renamed

theorem Snapshot.Renamed.enum {old new : EnumType} (before : .enum old ∈ base.types)
    (after : .enum new ∈ candidate.types) (same : old.name = new.name) : old = new := by
  cases renamed.of_name validCandidate before after same with
  | enum => rfl

end Snapshots

end SchemaEvolution
