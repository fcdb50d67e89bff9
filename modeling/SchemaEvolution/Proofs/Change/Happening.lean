import SchemaEvolution.Change.Diff
import SchemaEvolution.Proofs.Schema.Built

/-! # What happens between two revisions

The events of a diff, told without the diff: `FieldHappens`, `ValueHappens` and `Happens` name
every way in which an event comes about, in terms of the types and members that the two snapshots
hold.  The main results are `mem_fieldEvents_iff`, `mem_valueEvents_iff` and
`happens_iff_mem_ofTypes`, which say that the diff emits these events and no others.
-/

namespace SchemaEvolution

namespace Member

variable {α : Type} [Member α] {before after : Reservations} {old new : List α}

theorem intBefore_isStrictOrder : Sorted.IsStrictOrder fun a b : Int => decide (a < b) where
  irrefl a := by simp
  trans a b c hab hbc := by
    simp only [decide_eq_true_eq] at *
    omega
  eq_of_neither a b hab hba := by
    simp only [decide_eq_false_iff_not] at *
    omega

theorem mem_numbers {n : Int} :
    n ∈ numbers old new ↔ (∃ a ∈ old, number a = n) ∨ ∃ b ∈ new, number b = n := by
  simp [numbers, Sorted.mem_sortDistinct intBefore_isStrictOrder]

/-- A number pairs up as the two lists say; a number that neither list knows has no pair. -/
theorem mem_pairs_iff {n : Int} {pair : NumberPair α} :
    (n, pair) ∈ pairs before after old new ↔
      NumberPair.of? n before after (find? old n) (find? new n) = some pair := by
  simp only [pairs, List.mem_filterMap, Option.map_eq_some_iff, Prod.mk.injEq]
  constructor
  · rintro ⟨k, -, found, paired, rfl, rfl⟩
    exact paired
  · intro paired
    refine ⟨n, ?_, pair, paired, rfl, rfl⟩
    rw [mem_numbers]
    by_contra unknown
    simp only [not_or, not_exists, not_and] at unknown
    rw [find?_eq_none_iff.mpr unknown.1, find?_eq_none_iff.mpr unknown.2] at paired
    cases paired

theorem mem_pairs_matched (soundOld : Sound before old) (soundNew : Sound after new) {n : Int}
    {a b : α} :
    (n, .matched a b) ∈ pairs before after old new ↔
      (a ∈ old ∧ number a = n) ∧ b ∈ new ∧ number b = n := by
  rw [mem_pairs_iff, ← soundOld.find?_eq_some_iff, ← soundNew.find?_eq_some_iff]
  cases find? old n <;> cases find? new n <;> simp [NumberPair.of?]

theorem mem_pairs_added (soundNew : Sound after new) {n : Int} {b : α} {reserved : Bool} :
    (n, .added b reserved) ∈ pairs before after old new ↔
      (∀ a ∈ old, number a ≠ n) ∧ (b ∈ new ∧ number b = n) ∧ before.coversNumber n = reserved := by
  rw [mem_pairs_iff, ← find?_eq_none_iff, ← soundNew.find?_eq_some_iff]
  cases find? old n <;> cases find? new n <;> simp [NumberPair.of?]

theorem mem_pairs_removed (soundOld : Sound before old) {n : Int} {a : α} {reserved : Bool} :
    (n, .removed a reserved) ∈ pairs before after old new ↔
      (a ∈ old ∧ number a = n) ∧ (∀ b ∈ new, number b ≠ n) ∧ after.coversNumber n = reserved := by
  rw [mem_pairs_iff, ← find?_eq_none_iff, ← soundOld.find?_eq_some_iff]
  cases find? old n <;> cases find? new n <;> simp [NumberPair.of?]

/-- What is read off the pairs comes from a number in use on both sides, or on one of them. -/
theorem mem_filterMap_pairs {β : Type} (soundOld : Sound before old) (soundNew : Sound after new)
    {emit : Int × NumberPair α → Option β} {e : β} :
    e ∈ (pairs before after old new).filterMap emit ↔
      (∃ a ∈ old, ∃ b ∈ new, number a = number b ∧ emit (number a, .matched a b) = some e) ∨
      (∃ b ∈ new, (∀ a ∈ old, number a ≠ number b) ∧
        emit (number b, .added b (before.coversNumber (number b))) = some e) ∨
      ∃ a ∈ old, (∀ b ∈ new, number b ≠ number a) ∧
        emit (number a, .removed a (after.coversNumber (number a))) = some e := by
  rw [List.mem_filterMap]
  constructor
  · rintro ⟨⟨n, pair⟩, member, emitted⟩
    cases pair with
    | matched a b =>
        obtain ⟨⟨inOld, rfl⟩, inNew, same⟩ := (mem_pairs_matched soundOld soundNew).mp member
        exact .inl ⟨a, inOld, b, inNew, same.symm, emitted⟩
    | added b reserved =>
        obtain ⟨fresh, ⟨inNew, rfl⟩, rfl⟩ := (mem_pairs_added soundNew).mp member
        exact .inr (.inl ⟨b, inNew, fresh, emitted⟩)
    | removed a reserved =>
        obtain ⟨⟨inOld, rfl⟩, gone, rfl⟩ := (mem_pairs_removed soundOld).mp member
        exact .inr (.inr ⟨a, inOld, gone, emitted⟩)
  · rintro (⟨a, inOld, b, inNew, same, emitted⟩ | ⟨b, inNew, fresh, emitted⟩ |
      ⟨a, inOld, gone, emitted⟩)
    · exact ⟨_, (mem_pairs_matched soundOld soundNew).mpr ⟨⟨inOld, rfl⟩, inNew, same.symm⟩, emitted⟩
    · exact ⟨_, (mem_pairs_added soundNew).mpr ⟨fresh, ⟨inNew, rfl⟩, rfl⟩, emitted⟩
    · exact ⟨_, (mem_pairs_removed soundOld).mpr ⟨⟨inOld, rfl⟩, gone, rfl⟩, emitted⟩

/-- The pairs come in the order of their numbers. -/
theorem pairwise_pairs :
    (pairs before after old new).Pairwise fun p q => p.1 < q.1 := by
  have sorted := Sorted.pairwise_sortDistinct intBefore_isStrictOrder
    (old.map number ++ new.map number)
  refine List.Pairwise.filterMap _ ?_ sorted
  intro n k smaller p hp q hq
  obtain ⟨_, _, rfl⟩ := Option.map_eq_some_iff.mp hp
  obtain ⟨_, _, rfl⟩ := Option.map_eq_some_iff.mp hq
  simpa using smaller

end Member

/-- The events of the fields of a message. -/
def MessageType.fieldEvents (old new : MessageType) : List ChangeEvent :=
  (Member.pairs old.reserved new.reserved old.fields new.fields).filterMap
    (ChangeEvent.ofField? old new)

/-- The events of the values of an enum. -/
def EnumType.valueEvents (old new : EnumType) : List ChangeEvent :=
  (Member.pairs old.reserved new.reserved old.values new.values).filterMap
    (ChangeEvent.ofValue? old new)

/-- What may happen to a field between two revisions of a message. -/
inductive FieldHappens (old new : MessageType) : ChangeEvent → Prop
  | modified {f g : Field} (before : f ∈ old.fields) (after : g ∈ new.fields)
      (same : f.number = g.number) (changed : f.changes old.reserved g ≠ []) :
      FieldHappens old new (.modified (.fields old new f g) (f.changes old.reserved g))
  | added {g : Field} (after : g ∈ new.fields) (fresh : ∀ f ∈ old.fields, f.number ≠ g.number) :
      FieldHappens old new (.added (.field new g) (.of old.reserved g.number g.name))
  | removed {f : Field} (before : f ∈ old.fields) (gone : ∀ g ∈ new.fields, g.number ≠ f.number) :
      FieldHappens old new (.removed (.field old f) (.of new.reserved f.number f.name))

/-- What may happen to a value between two revisions of an enum. -/
inductive ValueHappens (old new : EnumType) : ChangeEvent → Prop
  | modified {v w : EnumValue} (before : v ∈ old.values) (after : w ∈ new.values)
      (same : v.number = w.number) (changed : v.changes old.reserved w ≠ []) :
      ValueHappens old new (.modified (.values old new v w) (v.changes old.reserved w))
  | added {w : EnumValue} (after : w ∈ new.values)
      (fresh : ∀ v ∈ old.values, v.number ≠ w.number) :
      ValueHappens old new (.added (.value new w) (.of old.reserved w.number w.name))
  | removed {v : EnumValue} (before : v ∈ old.values)
      (gone : ∀ w ∈ new.values, w.number ≠ v.number) :
      ValueHappens old new (.removed (.value old v) (.of new.reserved v.number v.name))

theorem mem_fieldEvents_iff {old new : MessageType}
    (soundOld : Member.Sound old.reserved old.fields)
    (soundNew : Member.Sound new.reserved new.fields) {event : ChangeEvent} :
    event ∈ old.fieldEvents new ↔ FieldHappens old new event := by
  rw [MessageType.fieldEvents, Member.mem_filterMap_pairs soundOld soundNew]
  constructor
  · rintro (⟨f, before, g, after, same, emitted⟩ | ⟨g, after, fresh, emitted⟩ |
      ⟨f, before, gone, emitted⟩)
    · simp only [ChangeEvent.ofField?, List.isEmpty_iff, ite_eq_iff, reduceCtorEq, and_false,
        false_or, Option.some.injEq] at emitted
      obtain ⟨changed, rfl⟩ := emitted
      exact .modified before after (Int.ofNat_inj.mp same) changed
    · cases emitted
      exact .added after fun f before same => fresh f before (congrArg Int.ofNat same)
    · cases emitted
      exact .removed before fun g after same => gone g after (congrArg Int.ofNat same)
  · intro happens
    cases happens with
    | modified before after same changed =>
        refine .inl ⟨_, before, _, after, congrArg Int.ofNat same, ?_⟩
        simp [ChangeEvent.ofField?, changed]
    | added after fresh =>
        refine .inr (.inl ⟨_, after, ?_, rfl⟩)
        exact fun f before same => fresh f before (Int.ofNat_inj.mp same)
    | removed before gone =>
        exact .inr (.inr ⟨_, before, fun g after same => gone g after (Int.ofNat_inj.mp same), rfl⟩)

theorem mem_valueEvents_iff {old new : EnumType} (soundOld : Member.Sound old.reserved old.values)
    (soundNew : Member.Sound new.reserved new.values) {event : ChangeEvent} :
    event ∈ old.valueEvents new ↔ ValueHappens old new event := by
  rw [EnumType.valueEvents, Member.mem_filterMap_pairs soundOld soundNew]
  constructor
  · rintro (⟨v, before, w, after, same, emitted⟩ | ⟨w, after, fresh, emitted⟩ |
      ⟨v, before, gone, emitted⟩)
    · simp only [ChangeEvent.ofValue?, List.isEmpty_iff, ite_eq_iff, reduceCtorEq, and_false,
        false_or, Option.some.injEq] at emitted
      obtain ⟨changed, rfl⟩ := emitted
      exact .modified before after same changed
    · cases emitted
      exact .added after fresh
    · cases emitted
      exact .removed before gone
  · intro happens
    cases happens with
    | modified before after same changed =>
        refine .inl ⟨_, before, _, after, same, ?_⟩
        simp [ChangeEvent.ofValue?, changed]
    | added after fresh => exact .inr (.inl ⟨_, after, fresh, rfl⟩)
    | removed before gone => exact .inr (.inr ⟨_, before, gone, rfl⟩)

theorem TypePair.mem_all_iff {base candidate : Snapshot} {pair : TypePair} :
    pair ∈ TypePair.all base candidate ↔
      pair.old = base.get? pair.name ∧ pair.new = candidate.get? pair.name ∧
      (pair.name ∈ base.names ∨ pair.name ∈ candidate.names) := by
  simp only [TypePair.all, List.mem_map, Sorted.mem_sortDistinct nameBefore_isStrictOrder,
    List.mem_append]
  constructor
  · rintro ⟨name, known, rfl⟩
    exact ⟨rfl, rfl, known⟩
  · rintro ⟨old, new, known⟩
    exact ⟨pair.name, known, by rw [← old, ← new]⟩

/-- The pairs come in the order of their names. -/
theorem TypePair.pairwise_all {base candidate : Snapshot} :
    (TypePair.all base candidate).Pairwise fun p q => nameBefore p.name q.name = true :=
  List.pairwise_map.mpr (Sorted.pairwise_sortDistinct nameBefore_isStrictOrder _)

namespace ChangeEvent

theorem mem_withType_iff {revision : Revision} {changes : List Change} {members : List ChangeEvent}
    {event : ChangeEvent} :
    event ∈ withType revision changes members ↔
      (event = .modified revision changes ∧ (changes ≠ [] ∨ ∃ e, e ∈ members)) ∨
        event ∈ members := by
  cases changes <;> cases members <;> simp [withType]

theorem ofMessages_eq {old new : MessageType} :
    ofMessages old new = withType (.messages old new) (old.changes new) (old.fieldEvents new) :=
  rfl

theorem ofEnums_eq {old new : EnumType} :
    ofEnums old new = withType (.enums old new) (old.changes new) (old.valueEvents new) :=
  rfl

end ChangeEvent

/-- What may happen under a name between two snapshots.  A type is added where the base has no
    type of its name and kind, and removed where the candidate has none. -/
inductive Happens (base candidate : Snapshot) : String → ChangeEvent → Prop
  | typeAdded {t : TypeDef} (after : t ∈ candidate.types)
      (fresh : ∀ u ∈ base.types, u.name = t.name → u.kind ≠ t.kind) :
      Happens base candidate t.name (.added (.ofType t) .clear)
  | typeRemoved {t : TypeDef} (before : t ∈ base.types)
      (gone : ∀ u ∈ candidate.types, u.name = t.name → u.kind ≠ t.kind) :
      Happens base candidate t.name (.removed (.ofType t) .clear)
  | message {old new : MessageType} (before : .message old ∈ base.types)
      (after : .message new ∈ candidate.types) (same : old.name = new.name)
      (changed : old.changes new ≠ [] ∨ ∃ event, FieldHappens old new event) :
      Happens base candidate old.name (.modified (.messages old new) (old.changes new))
  | field {old new : MessageType} (before : .message old ∈ base.types)
      (after : .message new ∈ candidate.types) (same : old.name = new.name) {event : ChangeEvent}
      (happens : FieldHappens old new event) : Happens base candidate old.name event
  | enum {old new : EnumType} (before : .enum old ∈ base.types)
      (after : .enum new ∈ candidate.types) (same : old.name = new.name)
      (changed : old.changes new ≠ [] ∨ ∃ event, ValueHappens old new event) :
      Happens base candidate old.name (.modified (.enums old new) (old.changes new))
  | value {old new : EnumType} (before : .enum old ∈ base.types)
      (after : .enum new ∈ candidate.types) (same : old.name = new.name) {event : ChangeEvent}
      (happens : ValueHappens old new event) : Happens base candidate old.name event

section Events

variable {base candidate : Snapshot}

theorem mem_ofMessages_iff {old new : MessageType} (validOld : base.MessageValid old)
    (validNew : candidate.MessageValid new) {event : ChangeEvent} :
    event ∈ ChangeEvent.ofMessages old new ↔
      (event = .modified (.messages old new) (old.changes new) ∧
        (old.changes new ≠ [] ∨ ∃ e, FieldHappens old new e)) ∨ FieldHappens old new event := by
  rw [ChangeEvent.ofMessages_eq, ChangeEvent.mem_withType_iff]
  simp only [mem_fieldEvents_iff validOld.sound validNew.sound]

theorem mem_ofEnums_iff {old new : EnumType} (validOld : Snapshot.EnumValid old)
    (validNew : Snapshot.EnumValid new) {event : ChangeEvent} :
    event ∈ ChangeEvent.ofEnums old new ↔
      (event = .modified (.enums old new) (old.changes new) ∧
        (old.changes new ≠ [] ∨ ∃ e, ValueHappens old new e)) ∨ ValueHappens old new event := by
  rw [ChangeEvent.ofEnums_eq, ChangeEvent.mem_withType_iff]
  simp only [mem_valueEvents_iff validOld.sound validNew.sound]

/-- Something happens only under the names of types. -/
theorem Happens.known {name : String} {event : ChangeEvent}
    (happens : Happens base candidate name event) :
    name ∈ base.names ∨ name ∈ candidate.names := by
  cases happens with
  | typeAdded after => exact .inr (List.mem_map_of_mem after)
  | typeRemoved before => exact .inl (List.mem_map_of_mem before)
  | message before => exact .inl (List.mem_map.mpr ⟨_, before, rfl⟩)
  | field before => exact .inl (List.mem_map.mpr ⟨_, before, rfl⟩)
  | enum before => exact .inl (List.mem_map.mpr ⟨_, before, rfl⟩)
  | value before => exact .inl (List.mem_map.mpr ⟨_, before, rfl⟩)

theorem Happens.of_mem_ofTypes (validBase : base.Valid) (validCandidate : candidate.Valid)
    {u t : TypeDef} (before : u ∈ base.types) (after : t ∈ candidate.types)
    (same : u.name = t.name) {event : ChangeEvent}
    (emitted : event ∈ ChangeEvent.ofTypes (some u) (some t)) :
    Happens base candidate u.name event := by
  have onlyBase : ∀ x ∈ base.types, x.name = t.name → x = u :=
    fun x inside named => validBase.eq_of_name inside before (named.trans same.symm)
  have onlyCandidate : ∀ x ∈ candidate.types, x.name = u.name → x = t :=
    fun x inside named => validCandidate.eq_of_name inside after (named.trans same)
  have kindsDiffer (differ : u.kind ≠ t.kind)
      (two : event = .removed (.ofType u) .clear ∨ event = .added (.ofType t) .clear) :
      Happens base candidate u.name event := by
    rcases two with rfl | rfl
    · exact .typeRemoved before fun x inside named => by
        rw [onlyCandidate x inside named]
        exact differ.symm
    · rw [same]
      exact .typeAdded after fun x inside named => by
        rw [onlyBase x inside named]
        exact differ
  cases u with
  | message old =>
      cases t with
      | message new =>
          rcases (mem_ofMessages_iff (validBase.messages _ before)
            (validCandidate.messages _ after)).mp emitted with ⟨rfl, changed⟩ | happens
          · exact .message before after same changed
          · exact .field before after same happens
      | enum new =>
          exact kindsDiffer (by simp [TypeDef.kind]) (by simpa [ChangeEvent.ofTypes] using emitted)
  | enum old =>
      cases t with
      | message new =>
          exact kindsDiffer (by simp [TypeDef.kind]) (by simpa [ChangeEvent.ofTypes] using emitted)
      | enum new =>
          rcases (mem_ofEnums_iff (validBase.enums _ before)
            (validCandidate.enums _ after)).mp emitted with ⟨rfl, changed⟩ | happens
          · exact .enum before after same changed
          · exact .value before after same happens

/-- The events of the two definitions of a name are what happens under the name. -/
theorem happens_iff_mem_ofTypes (validBase : base.Valid) (validCandidate : candidate.Valid)
    {name : String} {event : ChangeEvent} :
    Happens base candidate name event ↔
      event ∈ ChangeEvent.ofTypes (base.get? name) (candidate.get? name) := by
  constructor
  · intro happens
    cases happens with
    | @typeAdded t after fresh =>
        rw [validCandidate.get?_of_mem after rfl]
        cases found : base.get? t.name with
        | none => simp [ChangeEvent.ofTypes]
        | some u =>
            obtain ⟨before, same⟩ := Snapshot.mem_of_get? found
            have differ := fresh u before same
            cases u <;> cases t <;> simp_all [ChangeEvent.ofTypes, TypeDef.kind]
    | @typeRemoved t before gone =>
        rw [validBase.get?_of_mem before rfl]
        cases found : candidate.get? t.name with
        | none => simp [ChangeEvent.ofTypes]
        | some u =>
            obtain ⟨after, same⟩ := Snapshot.mem_of_get? found
            have differ := gone u after same
            cases u <;> cases t <;> simp_all [ChangeEvent.ofTypes, TypeDef.kind]
    | message before after same changed =>
        rw [validBase.get?_message before, validCandidate.get?_of_mem after same.symm]
        exact (mem_ofMessages_iff (validBase.messages _ before)
          (validCandidate.messages _ after)).mpr (.inl ⟨rfl, changed⟩)
    | field before after same happens =>
        rw [validBase.get?_message before, validCandidate.get?_of_mem after same.symm]
        exact (mem_ofMessages_iff (validBase.messages _ before)
          (validCandidate.messages _ after)).mpr (.inr happens)
    | enum before after same changed =>
        rw [validBase.get?_enum before, validCandidate.get?_of_mem after same.symm]
        exact (mem_ofEnums_iff (validBase.enums _ before)
          (validCandidate.enums _ after)).mpr (.inl ⟨rfl, changed⟩)
    | value before after same happens =>
        rw [validBase.get?_enum before, validCandidate.get?_of_mem after same.symm]
        exact (mem_ofEnums_iff (validBase.enums _ before)
          (validCandidate.enums _ after)).mpr (.inr happens)
  · intro emitted
    cases foundOld : base.get? name with
    | none =>
        rw [foundOld] at emitted
        cases foundNew : candidate.get? name with
        | none => rw [foundNew] at emitted; simp [ChangeEvent.ofTypes] at emitted
        | some t =>
            rw [foundNew] at emitted
            obtain ⟨after, rfl⟩ := Snapshot.mem_of_get? foundNew
            simp only [ChangeEvent.ofTypes, List.mem_singleton] at emitted
            subst emitted
            exact .typeAdded after fun u before same =>
              absurd same (Snapshot.get?_eq_none_iff.mp foundOld u before)
    | some u =>
        rw [foundOld] at emitted
        obtain ⟨before, rfl⟩ := Snapshot.mem_of_get? foundOld
        cases foundNew : candidate.get? u.name with
        | none =>
            rw [foundNew] at emitted
            simp only [ChangeEvent.ofTypes, List.mem_singleton] at emitted
            subst emitted
            exact .typeRemoved before fun t after same =>
              absurd same (Snapshot.get?_eq_none_iff.mp foundNew t after)
        | some t =>
            rw [foundNew] at emitted
            obtain ⟨after, same⟩ := Snapshot.mem_of_get? foundNew
            exact .of_mem_ofTypes validBase validCandidate before after same.symm emitted

end Events

end SchemaEvolution
