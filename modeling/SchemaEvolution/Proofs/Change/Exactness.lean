import SchemaEvolution.Proofs.Change.Replay

/-! # What a diff consists of

The events of two definitions of one kind, in their places (`ChangeEvent.InPlace`), beside the pairs
of numbers that they tell of (`ChangeEvent.Tells`).  `diff_is_exact_and_lossless` puts this together
with the replay: the events are in order, they lead from the old definition to the new one, and
their flags are those of the pairs.
-/

namespace SchemaEvolution

/-- The event of a type, if anything changed, in front of the events of its members, whose numbers
    increase. -/
inductive ChangeEvent.InPlace (old new : TypeDef) : List ChangeEvent → Prop
  | unchanged : InPlace old new []
  | changed {revision : Revision} {changes : List Change} {members : List ChangeEvent}
      (ofOld : revision.old = .ofType old) (ofNew : revision.new = .ofType new)
      (numbers : List Int) (numbered : members.map (·.entity.number?) = numbers.map some)
      (increasing : numbers.Pairwise (· < ·)) :
      InPlace old new (.modified revision changes :: members)

/-- What an event of a member says of the pair that the member belongs to. -/
inductive ChangeEvent.Tells : ChangeEvent → NumberPair Entity → Prop
  | matched {revision : Revision} {changes : List Change} :
      Tells (.modified revision changes) (.matched revision.old revision.new)
  /-- The flag says whether the number was reserved before. -/
  | added {entity : Entity} {status : ReservationStatus} :
      Tells (.added entity status) (.added entity status.number)
  /-- The flag says whether the number is reserved now. -/
  | removed {entity : Entity} {status : ReservationStatus} :
      Tells (.removed entity status) (.removed entity status.number)

/-- The pair of what two functions make of the sides. -/
def NumberPair.map {α β : Type} (gone kept : α → β) : NumberPair α → NumberPair β
  | .matched old new => .matched (gone old) (kept new)
  | .added new reserved => .added (kept new) reserved
  | .removed old reserved => .removed (gone old) reserved

/-- How the numbers of two definitions of one kind pair up, with members as subjects of events. -/
def TypeDef.memberPairs : TypeDef → TypeDef → List (Int × NumberPair Entity)
  | .message old, .message new =>
    (Member.pairs old.reserved new.reserved old.fields new.fields).map fun (n, pair) =>
      (n, pair.map (.field old) (.field new))
  | .enum old, .enum new =>
    (Member.pairs old.reserved new.reserved old.values new.values).map fun (n, pair) =>
      (n, pair.map (.value old) (.value new))
  | _, _ => []

section Members

variable {α : Type} [Member α] {before after : Reservations} {old new : List α}
  {kept gone : α → Entity} {ownerNew ownerOld : String}
  {emit : Int × NumberPair α → Option ChangeEvent}

omit [Member α] in
/-- Events that are read off pairs come in the order of the pairs. -/
theorem exists_numbers_of_filterMap (pairs : List (Int × NumberPair α))
    (numbered : ∀ n pair event, (n, pair) ∈ pairs → emit (n, pair) = some event →
      event.entity.number? = some n) :
    ∃ numbers : List Int, (pairs.filterMap emit).map (·.entity.number?) = numbers.map some ∧
      numbers.Sublist (pairs.map Prod.fst) := by
  induction pairs with
  | nil => exact ⟨[], rfl, .slnil⟩
  | cons first rest ih =>
      obtain ⟨n, pair⟩ := first
      obtain ⟨numbers, same, inOrder⟩ :=
        ih fun k other event member => numbered k other event (List.mem_cons_of_mem _ member)
      cases emitted : emit (n, pair) with
      | none =>
          rw [List.filterMap_cons_none emitted]
          exact ⟨numbers, same, inOrder.cons _⟩
      | some event =>
          have number := numbered n pair event List.mem_cons_self emitted
          rw [List.filterMap_cons_some emitted]
          refine ⟨n :: numbers, ?_, inOrder.cons_cons n⟩
          rw [List.map_cons, List.map_cons, number, same]

theorem EmitsMembers.exists_increasing (emits : EmitsMembers kept gone emit)
    (carryKept : Carry ownerNew kept) (carryGone : Carry ownerOld gone) :
    ∃ numbers : List Int,
      ((Member.pairs before after old new).filterMap emit).map (·.entity.number?) =
        numbers.map some ∧ numbers.Pairwise (· < ·) := by
  obtain ⟨numbers, same, inOrder⟩ :=
    exists_numbers_of_filterMap (Member.pairs before after old new)
      fun n pair event member emitted => (emits.about carryKept carryGone member emitted).2
  exact ⟨numbers, same, (List.pairwise_map.mpr Member.pairwise_pairs).sublist inOrder⟩

variable {changes : α → α → List Change} {revision : α → α → Revision}

/-- An event that is read off a pair tells of the pair. -/
theorem ReadsOff.tells (reads : ReadsOff before after kept gone changes revision emit)
    (soundOld : Member.Sound before old) (soundNew : Member.Sound after new) {n : Int}
    {pair : NumberPair α} {event : ChangeEvent}
    (member : (n, pair) ∈ Member.pairs before after old new)
    (emitted : emit (n, pair) = some event) : event.Tells (pair.map gone kept) := by
  cases pair with
  | matched a b =>
      rw [reads.matched] at emitted
      split at emitted
      · cases emitted
      · obtain rfl := Option.some.inj emitted
        rw [NumberPair.map, ← reads.old a b, ← reads.new a b]
        exact .matched
  | added b reserved =>
      obtain ⟨-, -, rfl⟩ := (Member.mem_pairs_added soundNew).mp member
      rw [reads.added] at emitted
      obtain rfl := Option.some.inj emitted
      exact .added
  | removed a reserved =>
      obtain ⟨-, -, rfl⟩ := (Member.mem_pairs_removed soundOld).mp member
      rw [reads.removed] at emitted
      obtain rfl := Option.some.inj emitted
      exact .removed

/-- An event that is read off the pair of a number tells of the pair of its own number. -/
theorem ReadsOff.exists_pair (reads : ReadsOff before after kept gone changes revision emit)
    (carryKept : Carry ownerNew kept) (carryGone : Carry ownerOld gone)
    (soundOld : Member.Sound before old) (soundNew : Member.Sound after new) {event : ChangeEvent}
    (emitted : event ∈ (Member.pairs before after old new).filterMap emit) {n : Int}
    (number : event.entity.number? = some n) :
    ∃ pair, (n, pair) ∈ (Member.pairs before after old new).map
      (fun (n, pair) => (n, pair.map gone kept)) ∧ event.Tells pair := by
  obtain ⟨⟨k, pair⟩, inside, emitted⟩ := List.mem_filterMap.mp emitted
  have named := (reads.emitsMembers.about carryKept carryGone inside emitted).2
  obtain rfl : k = n := Option.some.inj (named.symm.trans number)
  exact ⟨_, List.mem_map_of_mem inside, reads.tells soundOld soundNew inside emitted⟩

end Members

namespace ChangeEvent

variable {revision : Revision} {changes : List Change} {members : List ChangeEvent}

theorem inPlace_withType {old new : TypeDef} (ofOld : revision.old = .ofType old)
    (ofNew : revision.new = .ofType new)
    (inOrder : ∃ numbers : List Int,
      members.map (·.entity.number?) = numbers.map some ∧ numbers.Pairwise (· < ·)) :
    InPlace old new (withType revision changes members) := by
  obtain ⟨numbers, numbered, increasing⟩ := inOrder
  unfold withType
  split
  · exact .unchanged
  · exact .changed ofOld ofNew numbers numbered increasing

/-- Only events of members carry a number. -/
theorem mem_members_of_number? (onType : revision.new.number? = none) {event : ChangeEvent}
    (emitted : event ∈ withType revision changes members) {n : Int}
    (number : event.entity.number? = some n) : event ∈ members := by
  rcases mem_withType_iff.mp emitted with ⟨rfl, -⟩ | member
  · rw [entity, onType] at number
    cases number
  · exact member

end ChangeEvent

/-- The events between two definitions of one name and kind: the event of the type first, then at
    most one event for each number, in order; replayed on the old definition they give the new one up
    to the order of declarations; and each event of a member carries the flag of its number. -/
theorem diff_is_exact_and_lossless {base candidate : Snapshot} (builtBase : base.IsBuilt)
    (builtCandidate : candidate.IsBuilt) {old new : TypeDef} (before : old ∈ base.types)
    (after : new ∈ candidate.types) (name : old.name = new.name) (kind : old.kind = new.kind) :
    let events := (TypeDiff.of ⟨old.name, some old, some new⟩).events
    ChangeEvent.InPlace old new events ∧ (old.replay events).Alike new ∧
      ∀ event ∈ events, ∀ n, event.entity.number? = some n →
        ∃ pair, (n, pair) ∈ old.memberPairs new ∧ event.Tells pair := by
  cases old with
  | message old =>
      cases new with
      | enum new => cases kind
      | message new =>
          have soundOld := (builtBase.valid.messages old before).sound
          have soundNew := (builtCandidate.valid.messages new after).sound
          have reads := ChangeEvent.readsOff_ofField? old new
          refine ⟨?_, .message (MessageType.alike_replay soundOld soundNew name), ?_⟩
          · exact ChangeEvent.inPlace_withType rfl rfl
              (reads.emitsMembers.exists_increasing ⟨fun _ => rfl, fun _ => rfl⟩
                ⟨fun _ => rfl, fun _ => rfl⟩)
          · intro event emitted n number
            exact reads.exists_pair ⟨fun _ => rfl, fun _ => rfl⟩ ⟨fun _ => rfl, fun _ => rfl⟩
              soundOld soundNew (ChangeEvent.mem_members_of_number? rfl emitted number) number
  | enum old =>
      cases new with
      | message new => cases kind
      | enum new =>
          have soundOld := (builtBase.valid.enums old before).sound
          have soundNew := (builtCandidate.valid.enums new after).sound
          have reads := ChangeEvent.readsOff_ofValue? old new
          refine ⟨?_, .enum (EnumType.alike_replay soundOld soundNew name), ?_⟩
          · exact ChangeEvent.inPlace_withType rfl rfl
              (reads.emitsMembers.exists_increasing ⟨fun _ => rfl, fun _ => rfl⟩
                ⟨fun _ => rfl, fun _ => rfl⟩)
          · intro event emitted n number
            exact reads.exists_pair ⟨fun _ => rfl, fun _ => rfl⟩ ⟨fun _ => rfl, fun _ => rfl⟩
              soundOld soundNew (ChangeEvent.mem_members_of_number? rfl emitted number) number

def orderBefore : TypeDef :=
  .message ⟨"acme.Order", .proto2,
    [⟨1, "id", .scalar .int32, .singular, false, none⟩,
      ⟨2, "note", .scalar .string, .singular, false, some "none"⟩,
      ⟨4, "total", .scalar .float, .singular, false, none⟩], ⟨[⟨8, 9⟩, ⟨8, 9⟩], .empty⟩⟩

/-- The order without its note, with items, and with a total that is called and written in another
    way. -/
def orderAfter : TypeDef :=
  .message ⟨"acme.Order", .proto2,
    [⟨4, "sum", .scalar .double, .required, false, none⟩,
      ⟨9, "items", .scalar .string, .repeated, false, none⟩,
      ⟨1, "id", .scalar .int32, .singular, false, none⟩], ⟨[⟨2, 2⟩], .ofList ["note"]⟩⟩

theorem order_is_replayed :
    let events := (TypeDiff.of ⟨"acme.Order", some orderBefore, some orderAfter⟩).events
    orderBefore.kind = orderAfter.kind ∧ events.length = 4 ∧
      ChangeEvent.InPlace orderBefore orderAfter events ∧
      (orderBefore.replay events).Alike orderAfter ∧
      ∀ event ∈ events, ∀ n, event.entity.number? = some n →
        ∃ pair, (n, pair) ∈ orderBefore.memberPairs orderAfter ∧ event.Tells pair := by
  have builtBefore : (⟨"before", none, [orderBefore]⟩ : Snapshot).IsBuilt :=
    ⟨⟨"before", none, [orderBefore]⟩, by decide +kernel⟩
  have builtAfter : (⟨"after", none, [orderAfter]⟩ : Snapshot).IsBuilt :=
    ⟨⟨"after", none, [orderAfter]⟩, by decide +kernel⟩
  refine ⟨rfl, by decide +kernel, ?_⟩
  exact diff_is_exact_and_lossless builtBefore builtAfter List.mem_cons_self List.mem_cons_self
    rfl rfl

end SchemaEvolution
