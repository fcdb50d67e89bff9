import SchemaEvolution.Proofs.Schema.Built
import SchemaEvolution.Proofs.Schema.Coverage

/-! # Definitions that say the same

Two definitions are alike if they differ in what means nothing: the order of fields, of enum values
and of reserved ranges, and how often a range is reserved.
-/

namespace SchemaEvolution

structure Reservations.Alike (r q : Reservations) : Prop where
  ranges : ∀ range, range ∈ r.ranges ↔ range ∈ q.ranges
  names : r.names = q.names

structure MessageType.Alike (m n : MessageType) : Prop where
  name : m.name = n.name
  dialect : m.dialect = n.dialect
  fields : m.fields.Perm n.fields
  reserved : m.reserved.Alike n.reserved

structure EnumType.Alike (e k : EnumType) : Prop where
  name : e.name = k.name
  dialect : e.dialect = k.dialect
  values : e.values.Perm k.values
  reserved : e.reserved.Alike k.reserved

inductive TypeDef.Alike : TypeDef → TypeDef → Prop
  | message {m n : MessageType} (alike : m.Alike n) : Alike (.message m) (.message n)
  | enum {e k : EnumType} (alike : e.Alike k) : Alike (.enum e) (.enum k)

/-- Snapshots that define the same names, each alike. -/
def Snapshot.Alike (s t : Snapshot) : Prop :=
  ∀ name, Option.Rel TypeDef.Alike (s.get? name) (t.get? name)

theorem Reservations.Alike.refl (r : Reservations) : r.Alike r := ⟨fun _ => .rfl, rfl⟩

theorem TypeDef.Alike.refl (t : TypeDef) : t.Alike t := by
  cases t with
  | message m => exact .message ⟨rfl, rfl, .refl _, .refl _⟩
  | enum e => exact .enum ⟨rfl, rfl, .refl _, .refl _⟩

theorem Snapshot.Alike.refl (s : Snapshot) : s.Alike s := by
  intro name
  cases s.get? name with
  | none => exact .none
  | some t => exact .some (.refl t)

theorem Reservations.Alike.symm {r q : Reservations} (alike : r.Alike q) : q.Alike r :=
  ⟨fun range => (alike.ranges range).symm, alike.names.symm⟩

theorem TypeDef.Alike.symm {t u : TypeDef} (alike : t.Alike u) : u.Alike t := by
  cases alike with
  | message same =>
      exact .message ⟨same.name.symm, same.dialect.symm, same.fields.symm, same.reserved.symm⟩
  | enum same =>
      exact .enum ⟨same.name.symm, same.dialect.symm, same.values.symm, same.reserved.symm⟩

theorem TypeDef.Alike.kind_eq {t u : TypeDef} (alike : t.Alike u) : t.kind = u.kind := by
  cases alike <;> rfl

theorem Snapshot.Alike.symm {s t : Snapshot} (alike : s.Alike t) : t.Alike s := by
  intro name
  have related := alike name
  generalize s.get? name = old at related ⊢
  generalize t.get? name = new at related ⊢
  cases related with
  | none => exact .none
  | some same => exact .some same.symm

end SchemaEvolution
