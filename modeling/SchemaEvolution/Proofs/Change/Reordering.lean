import SchemaEvolution.Proofs.Change.Happening
import SchemaEvolution.Proofs.Schema.Reordering

/-! # Events of reordered definitions

A diff matches members by their numbers and compares reservations as sets, so reordered snapshots
have the same events: one for one, about the same members, with the same changes.  They differ only
in the definitions that they carry along (`ChangeEvent.Reordered`).
-/

namespace SchemaEvolution

/-- One entity, in definitions that differ in their order at most. -/
inductive Entity.Reordered : Entity → Entity → Prop
  | message {m n : MessageType} (same : m.Reordered n) : Reordered (.message m) (.message n)
  | enum {e k : EnumType} (same : e.Reordered k) : Reordered (.enum e) (.enum k)
  | field {m n : MessageType} {f : Field} (same : m.Reordered n) :
      Reordered (.field m f) (.field n f)
  | value {e k : EnumType} {v : EnumValue} (same : e.Reordered k) :
      Reordered (.value e v) (.value k v)

/-- One revision, in definitions that differ in their order at most. -/
inductive Revision.Reordered : Revision → Revision → Prop
  | messages {m m' n n' : MessageType} (old : m.Reordered m') (new : n.Reordered n') :
      Reordered (.messages m n) (.messages m' n')
  | enums {e e' k k' : EnumType} (old : e.Reordered e') (new : k.Reordered k') :
      Reordered (.enums e k) (.enums e' k')
  | fields {m m' n n' : MessageType} {f g : Field} (old : m.Reordered m') (new : n.Reordered n') :
      Reordered (.fields m n f g) (.fields m' n' f g)
  | values {e e' k k' : EnumType} {v w : EnumValue} (old : e.Reordered e')
      (new : k.Reordered k') : Reordered (.values e k v w) (.values e' k' v w)

/-- One event, in definitions that differ in their order at most. -/
inductive ChangeEvent.Reordered : ChangeEvent → ChangeEvent → Prop
  | added {x y : Entity} {before : ReservationStatus} (same : x.Reordered y) :
      Reordered (.added x before) (.added y before)
  | removed {x y : Entity} {after : ReservationStatus} (same : x.Reordered y) :
      Reordered (.removed x after) (.removed y after)
  | modified {x y : Revision} {changes : List Change} (same : x.Reordered y) :
      Reordered (.modified x changes) (.modified y changes)

namespace Entity.Reordered

variable {x y : Entity} (same : x.Reordered y)
include same

theorem name_eq : x.name = y.name := by
  cases same with
  | message same | enum same => exact same.name
  | field | value => rfl

theorem path_eq : x.path = y.path := by
  cases same with
  | message same | enum same => exact same.name
  | field same | value same => rw [path, path, same.name]

theorem number?_eq : x.number? = y.number? := by
  cases same <;> rfl

theorem sort_eq : x.sort = y.sort := by
  cases same <;> rfl

theorem isType_eq : x.isType = y.isType := by
  cases same <;> rfl

end Entity.Reordered

theorem Entity.reordered_ofType {t u : TypeDef} (same : t.Reordered u) :
    (ofType t).Reordered (ofType u) := by
  cases same with
  | message same => exact .message same
  | enum same => exact .enum same

theorem Revision.Reordered.new {x y : Revision} (same : x.Reordered y) :
    x.new.Reordered y.new := by
  cases same with
  | messages _ new => exact .message new
  | enums _ new => exact .enum new
  | fields _ new => exact .field new
  | values _ new => exact .value new

theorem ChangeEvent.Reordered.path_eq {d e : ChangeEvent} (same : d.Reordered e) :
    d.path = e.path := by
  cases same with
  | added same | removed same => exact same.path_eq
  | modified same => exact same.new.path_eq

theorem ChangeEvent.Reordered.ofEvent_eq {d e : ChangeEvent} (same : d.Reordered e) :
    DiffStats.ofEvent d = DiffStats.ofEvent e := by
  cases same <;> rfl

theorem Reservations.Reordered.status_eq {r q : Reservations} (same : r.Reordered q)
    (number : Int) (name : String) :
    ReservationStatus.of r number name = ReservationStatus.of q number name := by
  rw [ReservationStatus.of, ReservationStatus.of, same.coversNumber_eq, same.coversName_eq]

theorem Reservations.Reordered.changes_eq {r r' q q' : Reservations} (old : r.Reordered r')
    (new : q.Reordered q') : r.changes q = r'.changes q' := by
  simp only [changes, rangesWithout, old.rangeSet_eq, new.rangeSet_eq, old.names, new.names]

section Members

variable {α : Type} [Member α]

/-- Members pair up by their numbers, in whatever order they are declared. -/
theorem Member.pairs_eq_of_perm {before before' after after' : Reservations}
    {old old' new new' : List α} (sameBefore : before.Reordered before')
    (sameAfter : after.Reordered after') (permOld : old.Perm old') (permNew : new.Perm new')
    (distinctOld : (old.map number).Nodup) (distinctNew : (new.map number).Nodup) :
    pairs before after old new = pairs before' after' old' new' := by
  have all : numbers old new = numbers old' new' := by
    refine Sorted.eq_of_mem_iff intBefore_isStrictOrder
      (Sorted.pairwise_sortDistinct intBefore_isStrictOrder _)
      (Sorted.pairwise_sortDistinct intBefore_isStrictOrder _) ?_
    intro n
    simp only [mem_numbers, permOld.mem_iff, permNew.mem_iff]
  have pair (n : Int) (a b : Option α) :
      NumberPair.of? n before after a b = NumberPair.of? n before' after' a b := by
    cases a <;> cases b <;>
      simp [NumberPair.of?, sameBefore.coversNumber_eq, sameAfter.coversNumber_eq]
  have findOld : find? old = find? old' := funext (find?_eq_of_perm permOld distinctOld)
  have findNew : find? new = find? new' := funext (find?_eq_of_perm permNew distinctNew)
  simp only [pairs, all, pair, findOld, findNew]

end Members

namespace ChangeEvent

theorem rel_filterMap_pairs {α : Type} {pairs : List (Int × NumberPair α)}
    {emit emit' : Int × NumberPair α → Option ChangeEvent}
    (same : ∀ p, Option.Rel Reordered (emit p) (emit' p)) :
    List.Forall₂ Reordered (pairs.filterMap emit) (pairs.filterMap emit') :=
  List.rel_filterMap (R := (· = ·)) (fun p _ isSame => isSame ▸ same p) (List.forall₂_refl pairs)

theorem forall₂_withType {revision revision' : Revision} {changes : List Change}
    {members members' : List ChangeEvent} (same : revision.Reordered revision')
    (related : List.Forall₂ Reordered members members') :
    List.Forall₂ Reordered (withType revision changes members)
      (withType revision' changes members') := by
  have empty : members.isEmpty = members'.isEmpty := by cases related <;> rfl
  unfold withType
  rw [← empty]
  split
  · exact .nil
  · exact .cons (.modified same) related

section Messages

variable {old old' new new' : MessageType} (sameOld : old.Reordered old')
  (sameNew : new.Reordered new')
include sameOld sameNew

theorem rel_ofField? (p : Int × NumberPair Field) :
    Option.Rel Reordered (ofField? old new p) (ofField? old' new' p) := by
  obtain ⟨n, ⟨f, g⟩ | ⟨g, reserved⟩ | ⟨f, reserved⟩⟩ := p
  · have changes : f.changes old.reserved g = f.changes old'.reserved g := by
      simp only [Field.changes, sameOld.reserved.coversName_eq]
    simp only [ofField?, changes]
    split
    · exact .none
    · exact .some (.modified (.fields sameOld sameNew))
  · rw [ofField?, ofField?, sameOld.reserved.status_eq]
    exact .some (.added (.field sameNew))
  · rw [ofField?, ofField?, sameNew.reserved.status_eq]
    exact .some (.removed (.field sameOld))

theorem forall₂_ofMessages (soundOld : Member.Sound old.reserved old.fields)
    (soundNew : Member.Sound new.reserved new.fields) :
    List.Forall₂ Reordered (ofMessages old new) (ofMessages old' new') := by
  have changes : old.changes new = old'.changes new' := by
    rw [MessageType.changes, MessageType.changes, sameOld.dialect, sameNew.dialect,
      sameOld.reserved.changes_eq sameNew.reserved]
  rw [ofMessages, ofMessages, ← changes, Member.pairs_eq_of_perm sameOld.reserved
    sameNew.reserved sameOld.fields sameNew.fields soundOld.distinctNumbers
    soundNew.distinctNumbers]
  exact forall₂_withType (.messages sameOld sameNew)
    (rel_filterMap_pairs (rel_ofField? sameOld sameNew))

end Messages

section Enums

variable {old old' new new' : EnumType} (sameOld : old.Reordered old')
  (sameNew : new.Reordered new')
include sameOld sameNew

theorem rel_ofValue? (p : Int × NumberPair EnumValue) :
    Option.Rel Reordered (ofValue? old new p) (ofValue? old' new' p) := by
  obtain ⟨n, ⟨v, w⟩ | ⟨w, reserved⟩ | ⟨v, reserved⟩⟩ := p
  · have changes : v.changes old.reserved w = v.changes old'.reserved w := by
      simp only [EnumValue.changes, sameOld.reserved.coversName_eq]
    simp only [ofValue?, changes]
    split
    · exact .none
    · exact .some (.modified (.values sameOld sameNew))
  · rw [ofValue?, ofValue?, sameOld.reserved.status_eq]
    exact .some (.added (.value sameNew))
  · rw [ofValue?, ofValue?, sameNew.reserved.status_eq]
    exact .some (.removed (.value sameOld))

theorem forall₂_ofEnums (soundOld : Member.Sound old.reserved old.values)
    (soundNew : Member.Sound new.reserved new.values) :
    List.Forall₂ Reordered (ofEnums old new) (ofEnums old' new') := by
  have changes : old.changes new = old'.changes new' := by
    rw [EnumType.changes, EnumType.changes, sameOld.dialect, sameNew.dialect, sameOld.hasZero_eq,
      sameNew.hasZero_eq, sameOld.reserved.changes_eq sameNew.reserved]
  rw [ofEnums, ofEnums, ← changes, Member.pairs_eq_of_perm sameOld.reserved
    sameNew.reserved (.of_eq sameOld.values) (.of_eq sameNew.values) soundOld.distinctNumbers
    soundNew.distinctNumbers]
  exact forall₂_withType (.enums sameOld sameNew)
    (rel_filterMap_pairs (rel_ofValue? sameOld sameNew))

end Enums

/-- Reordered snapshots have the same events under every name. -/
theorem forall₂_ofTypes {base base' candidate candidate' : Snapshot} (validBase : base.Valid)
    (validCandidate : candidate.Valid) (reorderedBase : base.Reordered base')
    (reorderedCandidate : candidate.Reordered candidate') (name : String) :
    List.Forall₂ Reordered (ofTypes (base.get? name) (candidate.get? name))
      (ofTypes (base'.get? name) (candidate'.get? name)) := by
  have old := reorderedBase.rel_get? name
  have new := reorderedCandidate.rel_get? name
  generalize atBase : base.get? name = t, base'.get? name = t',
    atCandidate : candidate.get? name = u, candidate'.get? name = u' at old new
  cases old with
  | none =>
      cases new with
      | none => exact .nil
      | some same => exact .cons (.added (Entity.reordered_ofType same)) .nil
  | some sameOld =>
      have before := (Snapshot.mem_of_get? atBase).1
      cases new with
      | none => exact .cons (.removed (Entity.reordered_ofType sameOld)) .nil
      | some sameNew =>
          have after := (Snapshot.mem_of_get? atCandidate).1
          have replaced {t t' u u' : TypeDef} (old : t.Reordered t') (new : u.Reordered u') :
              List.Forall₂ Reordered [.removed (.ofType t) .clear, .added (.ofType u) .clear]
                [.removed (.ofType t') .clear, .added (.ofType u') .clear] :=
            .cons (.removed (Entity.reordered_ofType old))
              (.cons (.added (Entity.reordered_ofType new)) .nil)
          cases sameOld with
          | message old =>
              cases sameNew with
              | message new =>
                  exact forall₂_ofMessages old new (validBase.messages _ before).sound
                    (validCandidate.messages _ after).sound
              | enum new => exact replaced (.message old) (.enum new)
          | enum old =>
              cases sameNew with
              | message new => exact replaced (.enum old) (.message new)
              | enum new =>
                  exact forall₂_ofEnums old new (validBase.enums _ before).sound
                    (validCandidate.enums _ after).sound

end ChangeEvent

end SchemaEvolution
