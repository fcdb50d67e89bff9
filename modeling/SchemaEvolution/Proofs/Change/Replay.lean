import SchemaEvolution.Proofs.Change.Slot
import SchemaEvolution.Proofs.Schema.Alike

/-! # Replaying a diff

What an event says about a definition can be done to the definition: members that were removed go,
members that were added come, and every attribute that changed takes its new value.  `replay` does so
for all events of a type.  It reads the members and values that the events list and nothing else of
the new revision, so `diff_is_exact_and_lossless` says that a diff forgets no difference.

The members are replayed through their numbers: `Member.Edit` is what one pair of members calls for,
and the induction is on the pairs that are still to come (`Member.replay_pairs`).
-/

namespace SchemaEvolution

namespace Member

variable {α : Type} [Member α]

/-- What an event asks of a list of members. -/
inductive Edit (α : Type)
  | insert (a : α)
  | delete (number : Int)
  | revise (number : Int) (changes : List Change)

/-- A list of members after an edit, where `revise` sets one attribute of a member. -/
def Edit.apply (revise : α → Change → α) : Edit α → List α → List α
  | .insert a, members => members ++ [a]
  | .delete n, members => members.filter (number · != n)
  | .revise n changes, members =>
    members.map fun a => if number a = n then changes.foldl revise a else a

end Member

namespace Field

/-- The field with the attribute of a change at its new value. -/
def revise (f : Field) : Change → Field
  | .name _ new _ => { f with name := new }
  | .type _ new => { f with type := new }
  | .cardinality _ new => { f with cardinality := new }
  | .packed _ new => { f with packed := new }
  | .default _ new => { f with default := new }
  | _ => f

end Field

namespace EnumValue

def revise (v : EnumValue) : Change → EnumValue
  | .name _ new _ => { v with name := new }
  | _ => v

end EnumValue

namespace Dialect

def revise (d : Dialect) : Change → Dialect
  | .dialect _ new => new
  | _ => d

end Dialect

namespace Reservations

/-- The reservations without the ranges or names that a change removes and with those it adds. -/
def revise (r : Reservations) : Change → Reservations
  | .reservedNumbers added removed =>
    { r with ranges := r.ranges.filter (!removed.contains ·) ++ added }
  | .reservedNames added removed =>
    { r with names := .ofList (r.names.toList.filter (!removed.contains ·) ++ added) }
  | _ => r

end Reservations

namespace ChangeEvent

/-- The changes of the type itself. -/
def ofOwner : ChangeEvent → List Change
  | .modified revision changes => if revision.new.isType then changes else []
  | _ => []

def fieldEdit? : ChangeEvent → Option (Member.Edit Field)
  | .added (.field _ f) _ => some (.insert f)
  | .removed (.field _ f) _ => some (.delete f.number)
  | .modified (.fields _ _ f _) changes => some (.revise f.number changes)
  | _ => none

def valueEdit? : ChangeEvent → Option (Member.Edit EnumValue)
  | .added (.value _ v) _ => some (.insert v)
  | .removed (.value _ v) _ => some (.delete v.number)
  | .modified (.values _ _ v _) changes => some (.revise v.number changes)
  | _ => none

end ChangeEvent

namespace MessageType

/-- The message after one event. -/
def after (m : MessageType) (event : ChangeEvent) : MessageType where
  name := m.name
  dialect := event.ofOwner.foldl Dialect.revise m.dialect
  fields := event.fieldEdit?.elim m.fields (·.apply Field.revise m.fields)
  reserved := event.ofOwner.foldl Reservations.revise m.reserved

def replay (m : MessageType) (events : List ChangeEvent) : MessageType := events.foldl after m

end MessageType

namespace EnumType

/-- The enum after one event. -/
def after (e : EnumType) (event : ChangeEvent) : EnumType where
  name := e.name
  dialect := event.ofOwner.foldl Dialect.revise e.dialect
  values := event.valueEdit?.elim e.values (·.apply EnumValue.revise e.values)
  reserved := event.ofOwner.foldl Reservations.revise e.reserved

def replay (e : EnumType) (events : List ChangeEvent) : EnumType := events.foldl after e

end EnumType

namespace TypeDef

/-- The definition after some events. -/
def replay (events : List ChangeEvent) : TypeDef → TypeDef
  | message m => message (m.replay events)
  | enum e => enum (e.replay events)

end TypeDef

namespace Member

variable {α : Type} [Member α] {before after : Reservations} {old new members : List α}

theorem perm_of_find?_eq {as bs : List α} (distinctA : (as.map number).Nodup)
    (distinctB : (bs.map number).Nodup) (same : ∀ n, find? as n = find? bs n) : as.Perm bs := by
  rw [List.perm_ext_iff_of_nodup distinctA.of_map distinctB.of_map]
  intro a
  have found := same (number a)
  constructor
  · intro member
    have left := (find?_eq_some_iff_of_nodup distinctA).mpr ⟨member, rfl⟩
    exact ((find?_eq_some_iff_of_nodup distinctB).mp (found.symm.trans left)).1
  · intro member
    have right := (find?_eq_some_iff_of_nodup distinctB).mpr ⟨member, rfl⟩
    exact ((find?_eq_some_iff_of_nodup distinctA).mp (found.trans right)).1

theorem find?_insert {a : α} (fresh : find? members (number a) = none) (n : Int) :
    find? (members ++ [a]) n = if n = number a then some a else find? members n := by
  unfold find? at *
  rw [List.find?_append]
  by_cases same : n = number a
  · subst same
    simp [fresh]
  · have other : (number a == n) = false := by simpa using fun named => same named.symm
    simp [same, other]

theorem find?_delete (k n : Int) :
    find? (members.filter (number · != k)) n = if n = k then none else find? members n := by
  unfold find?
  rw [List.find?_filter]
  by_cases same : n = k
  · subst same
    simp
  · simp only [same, if_false]
    congr 1
    funext a
    by_cases named : number a = n
    · simp [named, same]
    · simp [named]

theorem number_revise_at {f : α → α} (keeps : ∀ a, number (f a) = number a) (k : Int) (a : α) :
    number (if number a = k then f a else a) = number a := by
  split
  · exact keeps a
  · rfl

theorem find?_revise {f : α → α} (keeps : ∀ a, number (f a) = number a) (k n : Int) :
    find? (members.map fun a => if number a = k then f a else a) n =
      if n = k then (find? members n).map f else find? members n := by
  have searched : find? (members.map fun a => if number a = k then f a else a) n =
      (find? members n).map fun a => if number a = k then f a else a := by
    simp [find?, List.find?_map, number_revise_at keeps]
  rw [searched]
  cases found : find? members n with
  | none => simp
  | some a =>
      obtain ⟨-, rfl⟩ := mem_of_find? found
      by_cases named : number a = k
      · simp [named]
      · simp [named]

/-- What a pair of members calls for.  Members that agree call for nothing. -/
def Edit.ofPair? (changes : α → α → List Change) : NumberPair α → Option (Edit α)
  | .matched a b => if (changes a b).isEmpty then none else some (.revise (number a) (changes a b))
  | .added b _ => some (.insert b)
  | .removed a _ => some (.delete (number a))

/-- The members after the edit that a pair calls for, if it calls for one. -/
def settle (revise : α → Change → α) (changes : α → α → List Change) (members : List α)
    (pair : NumberPair α) : List α :=
  (Edit.ofPair? changes pair).elim members (·.apply revise members)

section Replay

variable {revise : α → Change → α} {changes : α → α → List Change}
  (keeps : ∀ a c, number (revise a c) = number a)
  (reproduces : ∀ a b, number a = number b → (changes a b).foldl revise a = b)

include keeps in
theorem number_foldl_revise (changes : List Change) (a : α) :
    number (changes.foldl revise a) = number a := by
  induction changes generalizing a with
  | nil => rfl
  | cons c rest ih => rw [List.foldl_cons, ih, keeps]

include keeps reproduces in
/-- A pair settles its own number and leaves the others alone. -/
theorem find?_settle {n : Int} {pair : NumberPair α}
    (left : find? members n = pair.old?) (right : find? new n = pair.new?) (k : Int) :
    find? (settle revise changes members pair) k =
      if k = n then find? new n else find? members k := by
  cases pair with
  | matched a b =>
      obtain ⟨-, rfl⟩ := mem_of_find? left
      have target := reproduces a b (mem_of_find? right).2.symm
      by_cases silent : (changes a b).isEmpty
      · rw [List.isEmpty_iff.mp silent] at target
        obtain rfl : a = b := target
        simp only [settle, Edit.ofPair?, silent, if_true, Option.elim_none]
        split
        · subst k
          rw [left, right]
          rfl
        · rfl
      · simp only [settle, Edit.ofPair?, silent, Edit.apply]
        rw [if_neg (by simp), Option.elim_some, find?_revise (number_foldl_revise keeps _)]
        split
        · subst k
          rw [left, right, NumberPair.old?, Option.map_some, target]
          rfl
        · rfl
  | added b reserved =>
      obtain ⟨-, rfl⟩ := mem_of_find? right
      simp only [settle, Edit.ofPair?, Option.elim_some, Edit.apply]
      rw [find?_insert left, right]
      rfl
  | removed a reserved =>
      obtain ⟨-, rfl⟩ := mem_of_find? left
      simp only [settle, Edit.ofPair?, Option.elim_some, Edit.apply]
      rw [find?_delete, right]
      rfl

include keeps in
theorem nodup_settle {n : Int} {pair : NumberPair α} (distinct : (members.map number).Nodup)
    (left : find? members n = pair.old?) (right : find? new n = pair.new?) :
    ((settle revise changes members pair).map number).Nodup := by
  cases pair with
  | matched a b =>
      have same : (members.map fun c =>
          if number c = number a then (changes a b).foldl revise c else c).map number =
            members.map number := by
        rw [List.map_map]
        exact List.map_congr_left fun c _ =>
          number_revise_at (number_foldl_revise keeps (changes a b)) (number a) c
      by_cases silent : (changes a b).isEmpty
      · simpa [settle, Edit.ofPair?, silent] using distinct
      · simpa [settle, Edit.ofPair?, silent, Edit.apply, same] using distinct
  | added b reserved =>
      obtain ⟨-, rfl⟩ := mem_of_find? right
      have fresh := find?_eq_none_iff.mp left
      have apart : number b ∉ members.map number := by simpa using fresh
      have extended := (List.perm_append_singleton (number b) (members.map number)).nodup_iff.mpr
        (List.nodup_cons.mpr ⟨apart, distinct⟩)
      simpa [settle, Edit.ofPair?, Edit.apply] using extended
  | removed a reserved =>
      exact (List.filter_sublist.map number).nodup distinct

include keeps reproduces in
/-- Members at which the pairs to come are not settled yet and all others are. -/
theorem perm_foldl_settle {rest : List (Int × NumberPair α)}
    (distinctNew : (new.map number).Nodup) (numbers : (rest.map Prod.fst).Nodup)
    (sides : ∀ n pair, (n, pair) ∈ rest → find? old n = pair.old? ∧ find? new n = pair.new?)
    (distinct : (members.map number).Nodup)
    (settled : ∀ k, find? members k =
      if k ∈ rest.map Prod.fst then find? old k else find? new k) :
    ((rest.map Prod.snd).foldl (settle revise changes) members).Perm new := by
  induction rest generalizing members with
  | nil =>
      apply perm_of_find?_eq distinct distinctNew
      intro k
      simpa using settled k
  | cons next rest ih =>
      obtain ⟨n, pair⟩ := next
      obtain ⟨once, numbersRest⟩ := List.nodup_cons.mp numbers
      obtain ⟨before, right⟩ := sides n pair List.mem_cons_self
      have left : find? members n = pair.old? := by
        rw [settled n, ← before]
        simp
      apply ih numbersRest
      · intro k other member
        exact sides k other (List.mem_cons_of_mem _ member)
      · exact nodup_settle keeps distinct left right
      · intro k
        rw [find?_settle keeps reproduces left right]
        by_cases same : k = n
        · subst same
          rw [if_pos rfl, if_neg once]
        · rw [if_neg same, settled k]
          simp only [List.map_cons, List.mem_cons, same, false_or]

include keeps reproduces in
/-- Settling every pair turns the old members into the new ones. -/
theorem replay_pairs (soundOld : Sound before old) (soundNew : Sound after new) :
    (((pairs before after old new).map Prod.snd).foldl (settle revise changes) old).Perm new := by
  have sides (n : Int) (pair : NumberPair α) (member : (n, pair) ∈ pairs before after old new) :
      find? old n = pair.old? ∧ find? new n = pair.new? := by
    obtain ⟨left, right⟩ := NumberPair.sides_of? (mem_pairs_iff.mp member)
    exact ⟨left.symm, right.symm⟩
  apply perm_foldl_settle keeps reproduces soundNew.distinctNumbers _ sides
    soundOld.distinctNumbers
  · intro k
    split
    case isTrue => rfl
    case isFalse unpaired =>
      have neither : NumberPair.of? k before after (find? old k) (find? new k) = none := by
        cases paired : NumberPair.of? k before after (find? old k) (find? new k) with
        | none => rfl
        | some pair =>
            exact absurd (List.mem_map_of_mem (mem_pairs_iff.mpr paired)) unpaired
      cases left : find? old k <;> cases right : find? new k <;>
        simp_all [NumberPair.of?]
  · rw [List.Nodup, List.pairwise_map]
    exact pairwise_pairs.imp fun smaller => ne_of_lt smaller

end Replay

end Member

section Attributes

/-- A change that is listed where two values differ, and that sets what they differ in. -/
theorem foldl_unless_eq {α β : Type} [DecidableEq β] {revise : α → Change → α} {x y : β}
    {c : Change} {a b : α} (agree : x = y → a = b) (differ : revise a c = b) :
    (if x = y then [] else [c]).foldl revise a = b := by
  split
  case isTrue same => exact agree same
  case isFalse => exact differ

theorem Field.number_revise (f : Field) (c : Change) :
    Member.number (f.revise c) = Member.number f := by
  cases c <;> rfl

/-- The listed changes are all that tells two fields with one tag apart. -/
theorem Field.foldl_revise_changes (reserved : Reservations) (f g : Field)
    (same : Member.number f = Member.number g) :
    (f.changes reserved g).foldl Field.revise f = g := by
  obtain ⟨number, name, type, cardinality, packed, default⟩ := f
  obtain ⟨_, name', type', cardinality', packed', default'⟩ := g
  obtain rfl := Int.ofNat_inj.mp same
  simp only [Field.changes, List.foldl_append]
  have renamed : (if name = name' then [] else
      [Change.name name name' (reserved.coversName name')]).foldl Field.revise
        ⟨number, name, type, cardinality, packed, default⟩ =
          ⟨number, name', type, cardinality, packed, default⟩ :=
    foldl_unless_eq (by rintro rfl; rfl) rfl
  have retyped : (if type = type' then [] else [Change.type type type']).foldl Field.revise
      ⟨number, name', type, cardinality, packed, default⟩ =
        ⟨number, name', type', cardinality, packed, default⟩ :=
    foldl_unless_eq (by rintro rfl; rfl) rfl
  have recounted : (if cardinality = cardinality' then [] else
      [Change.cardinality cardinality cardinality']).foldl Field.revise
        ⟨number, name', type', cardinality, packed, default⟩ =
          ⟨number, name', type', cardinality', packed, default⟩ :=
    foldl_unless_eq (by rintro rfl; rfl) rfl
  have repacked : (if packed = packed' then [] else [Change.packed packed packed']).foldl
      Field.revise ⟨number, name', type', cardinality', packed, default⟩ =
        ⟨number, name', type', cardinality', packed', default⟩ :=
    foldl_unless_eq (by rintro rfl; rfl) rfl
  rw [renamed, retyped, recounted, repacked]
  exact foldl_unless_eq (by rintro rfl; rfl) rfl

theorem EnumValue.number_revise (v : EnumValue) (c : Change) :
    Member.number (v.revise c) = Member.number v := by
  cases c <;> rfl

theorem EnumValue.foldl_revise_changes (reserved : Reservations) (v w : EnumValue)
    (same : Member.number v = Member.number w) :
    (v.changes reserved w).foldl EnumValue.revise v = w := by
  obtain ⟨number, name⟩ := v
  obtain ⟨_, name'⟩ := w
  obtain rfl : number = _ := same
  exact foldl_unless_eq (by rintro rfl; rfl) rfl

namespace Reservations

theorem mem_rangesWithout {r q : Reservations} {range : ReservedRange} :
    range ∈ r.rangesWithout q ↔ range ∈ r.ranges ∧ range ∉ q.ranges := by
  simp [rangesWithout, mem_rangeSet]

theorem mem_namesWithout {r q : Reservations} {name : String} :
    name ∈ r.names.without q.names ↔ name ∈ r.names.toList ∧ name ∉ q.names.toList := by
  simp [NameSet.without, NameSet.contains]

/-- The listed ranges and names are all that tells two reservations apart. -/
theorem alike_foldl_revise_changes (r q : Reservations) :
    ((r.changes q).foldl revise r).Alike q := by
  rw [changes, List.foldl_append]
  -- The ranges come first and leave the names alone; the names leave the ranges alone.
  have ranged : ∃ ranges, (∀ range, range ∈ ranges ↔ range ∈ q.ranges) ∧
      (if r.rangeSet = q.rangeSet then [] else
        [Change.reservedNumbers (q.rangesWithout r) (r.rangesWithout q)]).foldl revise r =
          ⟨ranges, r.names⟩ := by
    split
    case isTrue same => exact ⟨r.ranges, rangeSet_eq_iff.mp same, rfl⟩
    case isFalse =>
      refine ⟨_, ?_, rfl⟩
      intro range
      simp only [List.mem_append, List.mem_filter, Bool.not_eq_true', List.contains_eq_mem,
        decide_eq_false_iff_not, mem_rangesWithout]
      tauto
  obtain ⟨ranges, same, reached⟩ := ranged
  have named : (if r.names = q.names then [] else
      [Change.reservedNames (q.names.without r.names) (r.names.without q.names)]).foldl revise
        ⟨ranges, r.names⟩ = ⟨ranges, q.names⟩ := by
    apply foldl_unless_eq
    · intro agree
      rw [agree]
    · simp only [revise, Reservations.mk.injEq, true_and]
      apply NameSet.ext_mem
      intro name
      rw [Bool.eq_iff_iff, NameSet.contains_ofList]
      simp only [List.mem_append, List.mem_filter, Bool.not_eq_true', List.contains_eq_mem,
        decide_eq_false_iff_not, mem_namesWithout, NameSet.contains, decide_eq_true_eq]
      tauto
  rw [reached, named]
  exact ⟨same, rfl⟩

end Reservations

end Attributes

section Components

theorem MessageType.replay_eq (m : MessageType) (events : List ChangeEvent) :
    m.replay events = {
      name := m.name
      dialect := (events.flatMap ChangeEvent.ofOwner).foldl Dialect.revise m.dialect
      fields := (events.filterMap ChangeEvent.fieldEdit?).foldl
        (fun fields edit => edit.apply Field.revise fields) m.fields
      reserved := (events.flatMap ChangeEvent.ofOwner).foldl Reservations.revise m.reserved } := by
  induction events generalizing m with
  | nil => rfl
  | cons event rest ih =>
      rw [replay, List.foldl_cons, ← replay, ih]
      simp only [after, List.flatMap_cons, List.foldl_append, List.filterMap_cons]
      cases event.fieldEdit? <;> rfl

theorem EnumType.replay_eq (e : EnumType) (events : List ChangeEvent) :
    e.replay events = {
      name := e.name
      dialect := (events.flatMap ChangeEvent.ofOwner).foldl Dialect.revise e.dialect
      values := (events.filterMap ChangeEvent.valueEdit?).foldl
        (fun values edit => edit.apply EnumValue.revise values) e.values
      reserved := (events.flatMap ChangeEvent.ofOwner).foldl Reservations.revise e.reserved } := by
  induction events generalizing e with
  | nil => rfl
  | cons event rest ih =>
      rw [replay, List.foldl_cons, ← replay, ih]
      simp only [after, List.flatMap_cons, List.foldl_append, List.filterMap_cons]
      cases event.valueEdit? <;> rfl

end Components

section Types

theorem Reservations.foldl_dialect_changes (r q : Reservations) (d : Dialect) :
    (r.changes q).foldl Dialect.revise d = d := by
  rw [changes, List.foldl_append, foldl_unless_eq (b := d) (fun _ => rfl) rfl]
  exact foldl_unless_eq (fun _ => rfl) rfl

theorem Dialect.foldl_changes (d e : Dialect) :
    (if d = e then [] else [Change.dialect d e]).foldl Dialect.revise d = e :=
  foldl_unless_eq id rfl

/-- What is read off pairs of members is about members. -/
theorem EmitsMembers.onType_of_mem_filterMap {α : Type} {kept gone : α → Entity}
    {emit : Int × NumberPair α → Option ChangeEvent} (emits : EmitsMembers kept gone emit)
    {pairs : List (Int × NumberPair α)} {event : ChangeEvent}
    (emitted : event ∈ pairs.filterMap emit) : event.site.onType = false := by
  obtain ⟨⟨n, pair⟩, -, emitted⟩ := List.mem_filterMap.mp emitted
  rcases emits n pair event emitted with ⟨site, -⟩ | ⟨site, -⟩ <;> rw [site]

namespace ChangeEvent

variable {revision : Revision} {changes : List Change} {members : List ChangeEvent}

/-- Only the event of the type speaks of the type. -/
theorem flatMap_ofOwner_withType (onType : revision.new.isType = true)
    (onMember : ∀ e ∈ members, e.ofOwner = []) :
    (withType revision changes members).flatMap ofOwner = changes := by
  have silent : members.flatMap ofOwner = [] := List.flatMap_eq_nil_iff.mpr onMember
  unfold withType
  split
  case isTrue empty =>
    rw [Bool.and_eq_true, List.isEmpty_iff] at empty
    rw [empty.1]
    rfl
  case isFalse => simp [ofOwner, onType, silent]

theorem filterMap_withType {β : Type} {read : ChangeEvent → Option β}
    (skips : read (.modified revision changes) = none) :
    (withType revision changes members).filterMap read = members.filterMap read := by
  unfold withType
  split
  case isTrue empty =>
    rw [Bool.and_eq_true, List.isEmpty_iff, List.isEmpty_iff] at empty
    rw [empty.2]
  case isFalse => exact List.filterMap_cons_none skips

end ChangeEvent

theorem ChangeEvent.ofOwner_of_onMember {event : ChangeEvent}
    (onMember : event.site.onType = false) : event.ofOwner = [] := by
  cases event with
  | added | removed => rfl
  | modified revision changes =>
      have member : revision.new.isType = false := onMember
      simp [ofOwner, member]

section Edits

variable {α : Type} [Member α] {before after : Reservations} {old new : List α}
  {kept gone : α → Entity} {changes : α → α → List Change} {revision : α → α → Revision}
  {emit : Int × NumberPair α → Option ChangeEvent} {edit? : ChangeEvent → Option (Member.Edit α)}
  (reads : ReadsOff before after kept gone changes revision emit)
  (inserts : ∀ b status, edit? (.added (kept b) status) = some (.insert b))
  (deletes : ∀ a status, edit? (.removed (gone a) status) = some (.delete (Member.number a)))
  (revises : ∀ a b listed,
    edit? (.modified (revision a b) listed) = some (.revise (Member.number a) listed))
include reads inserts deletes revises

/-- The event that is read off a pair asks for the edit that the pair calls for. -/
theorem ReadsOff.bind_edit? (n : Int) (pair : NumberPair α) :
    (emit (n, pair)).bind edit? = Member.Edit.ofPair? changes pair := by
  cases pair with
  | matched a b =>
      rw [reads.matched, Member.Edit.ofPair?]
      split
      · rfl
      · exact revises a b _
  | added b reserved =>
      rw [reads.added]
      exact inserts b _
  | removed a reserved =>
      rw [reads.removed]
      exact deletes a _

theorem ReadsOff.foldl_edits_eq {revise : α → Change → α} (pairs : List (Int × NumberPair α))
    (members : List α) :
    ((pairs.filterMap emit).filterMap edit?).foldl
        (fun members edit => edit.apply revise members) members =
      (pairs.map Prod.snd).foldl (Member.settle revise changes) members := by
  rw [List.filterMap_filterMap]
  induction pairs generalizing members with
  | nil => rfl
  | cons next rest ih =>
      obtain ⟨n, pair⟩ := next
      rw [List.map_cons, List.foldl_cons, ← ih, List.filterMap_cons,
        reads.bind_edit? inserts deletes revises, Member.settle]
      cases Member.Edit.ofPair? changes pair <;> rfl

/-- The edits that the events ask for turn the old members into the new ones. -/
theorem ReadsOff.foldl_edits_perm {revise : α → Change → α}
    (keeps : ∀ a c, Member.number (revise a c) = Member.number a)
    (reproduces : ∀ a b, Member.number a = Member.number b → (changes a b).foldl revise a = b)
    (soundOld : Member.Sound before old) (soundNew : Member.Sound after new) :
    ((((Member.pairs before after old new).filterMap emit).filterMap edit?).foldl
      (fun members edit => edit.apply revise members) old).Perm new := by
  rw [reads.foldl_edits_eq inserts deletes revises]
  exact Member.replay_pairs keeps reproduces soundOld soundNew

end Edits

/-- Replaying the events between two messages on the old one gives the new one. -/
theorem MessageType.alike_replay {old new : MessageType}
    (soundOld : Member.Sound old.reserved old.fields)
    (soundNew : Member.Sound new.reserved new.fields) (name : old.name = new.name) :
    (old.replay (ChangeEvent.ofMessages old new)).Alike new := by
  have own : (ChangeEvent.ofMessages old new).flatMap ChangeEvent.ofOwner = old.changes new :=
    ChangeEvent.flatMap_ofOwner_withType rfl fun _ emitted =>
      ChangeEvent.ofOwner_of_onMember
        (ChangeEvent.emitsMembers_ofField?.onType_of_mem_filterMap emitted)
  have edits : (ChangeEvent.ofMessages old new).filterMap ChangeEvent.fieldEdit? =
      ((Member.pairs old.reserved new.reserved old.fields new.fields).filterMap
        (ChangeEvent.ofField? old new)).filterMap ChangeEvent.fieldEdit? :=
    ChangeEvent.filterMap_withType rfl
  rw [replay_eq, own, edits, changes, List.foldl_append, List.foldl_append,
    Dialect.foldl_changes, Reservations.foldl_dialect_changes,
    foldl_unless_eq (b := old.reserved) (fun _ => rfl) rfl]
  exact {
    name := name
    dialect := rfl
    fields := (ChangeEvent.readsOff_ofField? old new).foldl_edits_perm (fun _ _ => rfl)
      (fun _ _ => rfl) (fun _ _ _ => rfl) Field.number_revise
      (Field.foldl_revise_changes old.reserved) soundOld soundNew
    reserved := Reservations.alike_foldl_revise_changes _ _ }

/-- Replaying the events between two enums on the old one gives the new one. -/
theorem EnumType.alike_replay {old new : EnumType}
    (soundOld : Member.Sound old.reserved old.values)
    (soundNew : Member.Sound new.reserved new.values) (name : old.name = new.name) :
    (old.replay (ChangeEvent.ofEnums old new)).Alike new := by
  have own : (ChangeEvent.ofEnums old new).flatMap ChangeEvent.ofOwner = old.changes new :=
    ChangeEvent.flatMap_ofOwner_withType rfl fun _ emitted =>
      ChangeEvent.ofOwner_of_onMember
        (ChangeEvent.emitsMembers_ofValue?.onType_of_mem_filterMap emitted)
  have edits : (ChangeEvent.ofEnums old new).filterMap ChangeEvent.valueEdit? =
      ((Member.pairs old.reserved new.reserved old.values new.values).filterMap
        (ChangeEvent.ofValue? old new)).filterMap ChangeEvent.valueEdit? :=
    ChangeEvent.filterMap_withType rfl
  have zeroApart : (if old.hasZero = new.hasZero then [] else
      [Change.zeroValue old.hasZero new.hasZero]).foldl Dialect.revise new.dialect = new.dialect :=
    foldl_unless_eq (fun _ => rfl) rfl
  rw [replay_eq, own, edits, changes, List.foldl_append, List.foldl_append,
    List.foldl_append, List.foldl_append, Dialect.foldl_changes, zeroApart,
    Reservations.foldl_dialect_changes, foldl_unless_eq (b := old.reserved) (fun _ => rfl) rfl,
    foldl_unless_eq (b := old.reserved) (fun _ => rfl) rfl]
  exact {
    name := name
    dialect := rfl
    values := (ChangeEvent.readsOff_ofValue? old new).foldl_edits_perm (fun _ _ => rfl)
      (fun _ _ => rfl) (fun _ _ _ => rfl) EnumValue.number_revise
      (EnumValue.foldl_revise_changes old.reserved) soundOld soundNew
    reserved := Reservations.alike_foldl_revise_changes _ _ }

end Types

end SchemaEvolution
