import SchemaEvolution.Proofs.Change.Happening
import SchemaEvolution.Proofs.Rule.Outcome
import SchemaEvolution.Proofs.Text.Spelling

/-! # Where events stand

The site and the path of an event tell it from every other event of the same two snapshots
(`Happens.name_eq`, `pairwise_events_of_pair`).  A path alone does not: a member may be called as
a type is, and a name may pass from a member that is gone to one that is new.  What helps is that
a member's name holds no dot, so the path of a member shows where its owner ends.
-/

namespace SchemaEvolution

theorem NumberPair.sides_of? {α : Type} {n : Int} {before after : Reservations}
    {a b : Option α} {pair : NumberPair α} (paired : of? n before after a b = some pair) :
    pair.old? = a ∧ pair.new? = b := by
  cases a <;> cases b <;> cases paired <;> exact ⟨rfl, rfl⟩

/-- Entities that carry the name of a member behind that of an owner, and its number. -/
structure Carry {α : Type} [Member α] (owner : String) (entity : α → Entity) : Prop where
  path : ∀ a, (entity a).path = s!"{owner}.{Member.name a}"
  number : ∀ a, (entity a).number? = some (Member.number a)

/-- An event about a member that is there after the change, or about one that is gone. -/
def AboutMember {α : Type} (kept gone : α → Entity) (old new : List α) (event : ChangeEvent) :
    Prop :=
  (event.site = ⟨false, false⟩ ∧ ∃ b ∈ new, event.entity = kept b) ∨
    (event.site = ⟨false, true⟩ ∧ ∃ a ∈ old, event.entity = gone a)

theorem FieldHappens.aboutMember {old new : MessageType} {event : ChangeEvent}
    (happens : FieldHappens old new event) :
    AboutMember (.field new) (.field old) old.fields new.fields event := by
  cases happens with
  | modified before after => exact .inl ⟨rfl, _, after, rfl⟩
  | added after => exact .inl ⟨rfl, _, after, rfl⟩
  | removed before => exact .inr ⟨rfl, _, before, rfl⟩

theorem ValueHappens.aboutMember {old new : EnumType} {event : ChangeEvent}
    (happens : ValueHappens old new event) :
    AboutMember (.value new) (.value old) old.values new.values event := by
  cases happens with
  | modified before after => exact .inl ⟨rfl, _, after, rfl⟩
  | added after => exact .inl ⟨rfl, _, after, rfl⟩
  | removed before => exact .inr ⟨rfl, _, before, rfl⟩

theorem AboutMember.onType {α : Type} {kept gone : α → Entity} {old new : List α}
    {event : ChangeEvent} (about : AboutMember kept gone old new event) :
    event.site.onType = false := by
  rcases about with ⟨site, -⟩ | ⟨site, -⟩ <;> rw [site]

section Paths

variable {base candidate : Snapshot}

/-- Events of a type carry its name as their path, events of a member carry the owner's name, a
    dot, and an identifier. -/
theorem Happens.path_cases (validBase : base.Valid) (validCandidate : candidate.Valid)
    {name : String} {event : ChangeEvent} (happens : Happens base candidate name event) :
    (event.site.onType = true ∧ event.path = name ∧ event.entity.number? = none) ∨
      (event.site.onType = false ∧ event.path = s!"{name}.{event.entity.name}" ∧
        Identifier.isIdentifier event.entity.name.toList = true) := by
  cases happens with
  | @typeAdded t => exact .inl (by cases t <;> exact ⟨rfl, rfl, rfl⟩)
  | @typeRemoved t => exact .inl (by cases t <;> exact ⟨rfl, rfl, rfl⟩)
  | message before after same => exact .inl ⟨rfl, same.symm, rfl⟩
  | enum before after same => exact .inl ⟨rfl, same.symm, rfl⟩
  | field before after same happens =>
      refine .inr ?_
      rcases happens.aboutMember with ⟨site, g, member, entity⟩ | ⟨site, f, member, entity⟩
      · rw [site, ChangeEvent.path, entity, same]
        exact ⟨rfl, rfl, ((validCandidate.messages _ after).fields g member).identifier⟩
      · rw [site, ChangeEvent.path, entity]
        exact ⟨rfl, rfl, ((validBase.messages _ before).fields f member).identifier⟩
  | value before after same happens =>
      refine .inr ?_
      rcases happens.aboutMember with ⟨site, w, member, entity⟩ | ⟨site, v, member, entity⟩
      · rw [site, ChangeEvent.path, entity, same]
        exact ⟨rfl, rfl, ((validCandidate.enums _ after).values w member).identifier⟩
      · rw [site, ChangeEvent.path, entity]
        exact ⟨rfl, rfl, ((validBase.enums _ before).values v member).identifier⟩

/-- Events under two names differ in their site or in their path. -/
theorem Happens.name_eq (validBase : base.Valid) (validCandidate : candidate.Valid)
    {a b : String} {d e : ChangeEvent} (first : Happens base candidate a d)
    (second : Happens base candidate b e) (site : d.site = e.site) (path : d.path = e.path) :
    a = b := by
  rcases first.path_cases validBase validCandidate with ⟨onType, ofD, -⟩ | ⟨onMember, ofD, left⟩ <;>
    rcases second.path_cases validBase validCandidate with
      ⟨onTypeE, ofE, -⟩ | ⟨onMemberE, ofE, right⟩
  · rw [← ofD, path, ofE]
  · rw [site, onMemberE] at onType
    cases onType
  · rw [site, onTypeE] at onMember
    cases onMember
  · exact (Identifier.path_inj left right (by rw [← ofD, path, ofE])).1

/-- Members under one path, both there or both gone, have one number. -/
theorem AboutMember.number_eq {α : Type} [Member α] {before after : Reservations}
    {old new : List α} {kept gone : α → Entity} {ownerNew ownerOld : String}
    (carryKept : Carry ownerNew kept) (carryGone : Carry ownerOld gone)
    (soundOld : Member.Sound before old) (soundNew : Member.Sound after new) {d e : ChangeEvent}
    (first : AboutMember kept gone old new d) (second : AboutMember kept gone old new e)
    (site : d.site = e.site) (path : d.path = e.path) :
    d.entity.number? = e.entity.number? := by
  unfold ChangeEvent.path at path
  rcases first with ⟨siteD, a, inD, entityD⟩ | ⟨siteD, a, inD, entityD⟩ <;>
    rcases second with ⟨siteE, b, inE, entityE⟩ | ⟨siteE, b, inE, entityE⟩ <;>
    rw [entityD, entityE] at path <;> rw [entityD, entityE]
  · rw [carryKept.path, carryKept.path] at path
    obtain ⟨-, names⟩ :=
      Identifier.path_inj (soundNew.identifier a inD) (soundNew.identifier b inE) path
    rw [soundNew.eq_of_name inD inE names]
  · rw [siteD, siteE] at site
    cases site
  · rw [siteD, siteE] at site
    cases site
  · rw [carryGone.path, carryGone.path] at path
    obtain ⟨-, names⟩ :=
      Identifier.path_inj (soundOld.identifier a inD) (soundOld.identifier b inE) path
    rw [soundOld.eq_of_name inD inE names]

/-- Two events that share neither site nor path. -/
def Apart (d e : ChangeEvent) : Prop := ¬ (d.site = e.site ∧ d.path = e.path)

/-- Whether what is read off a pair of members is about the member after the change, or about the
    one before if it is gone. -/
def EmitsMembers {α : Type} (kept gone : α → Entity)
    (emit : Int × NumberPair α → Option ChangeEvent) : Prop :=
  ∀ n pair event, emit (n, pair) = some event →
    (event.site = ⟨false, false⟩ ∧ ∃ b, pair.new? = some b ∧ event.entity = kept b) ∨
      (event.site = ⟨false, true⟩ ∧ ∃ a, pair.old? = some a ∧ event.entity = gone a)

/-- What is read off a pair of members: how a member that was kept changed, if it did, or that one
    came or went, with what the other side reserves. -/
structure ReadsOff {α : Type} [Member α] (before after : Reservations) (kept gone : α → Entity)
    (changes : α → α → List Change) (revision : α → α → Revision)
    (emit : Int × NumberPair α → Option ChangeEvent) : Prop where
  matched : ∀ n a b, emit (n, .matched a b) =
    if (changes a b).isEmpty then none else some (.modified (revision a b) (changes a b))
  added : ∀ n b reserved, emit (n, .added b reserved) =
    some (.added (kept b) (.of before n (Member.name b)))
  removed : ∀ n a reserved, emit (n, .removed a reserved) =
    some (.removed (gone a) (.of after n (Member.name a)))
  old : ∀ a b, (revision a b).old = gone a
  new : ∀ a b, (revision a b).new = kept b
  keptMember : ∀ b, (kept b).isType = false
  goneMember : ∀ a, (gone a).isType = false

theorem ChangeEvent.readsOff_ofField? (old new : MessageType) :
    ReadsOff old.reserved new.reserved (.field new) (.field old) (Field.changes old.reserved)
      (.fields old new) (ofField? old new) := by
  constructor <;> intros <;> rfl

theorem ChangeEvent.readsOff_ofValue? (old new : EnumType) :
    ReadsOff old.reserved new.reserved (.value new) (.value old) (EnumValue.changes old.reserved)
      (.values old new) (ofValue? old new) := by
  constructor <;> intros <;> rfl

theorem ReadsOff.emitsMembers {α : Type} [Member α] {before after : Reservations}
    {kept gone : α → Entity} {changes : α → α → List Change} {revision : α → α → Revision}
    {emit : Int × NumberPair α → Option ChangeEvent}
    (reads : ReadsOff before after kept gone changes revision emit) :
    EmitsMembers kept gone emit := by
  intro n pair event emitted
  cases pair with
  | matched a b =>
      rw [reads.matched] at emitted
      split at emitted
      · cases emitted
      · obtain rfl := Option.some.inj emitted
        exact .inl ⟨by rw [ChangeEvent.site, reads.new, reads.keptMember], b, rfl, reads.new a b⟩
  | added b reserved =>
      rw [reads.added] at emitted
      obtain rfl := Option.some.inj emitted
      exact .inl ⟨by rw [ChangeEvent.site, reads.keptMember], b, rfl, rfl⟩
  | removed a reserved =>
      rw [reads.removed] at emitted
      obtain rfl := Option.some.inj emitted
      exact .inr ⟨by rw [ChangeEvent.site, reads.goneMember], a, rfl, rfl⟩

theorem ChangeEvent.emitsMembers_ofField? {old new : MessageType} :
    EmitsMembers (.field new) (.field old) (ofField? old new) :=
  (readsOff_ofField? old new).emitsMembers

theorem ChangeEvent.emitsMembers_ofValue? {old new : EnumType} :
    EmitsMembers (.value new) (.value old) (ofValue? old new) :=
  (readsOff_ofValue? old new).emitsMembers

section Members

variable {α : Type} [Member α] {before after : Reservations} {old new : List α}
  {kept gone : α → Entity} {ownerNew ownerOld : String}
  {emit : Int × NumberPair α → Option ChangeEvent}

/-- What is read off a pair carries the number of the pair. -/
theorem EmitsMembers.about (emits : EmitsMembers kept gone emit) (carryKept : Carry ownerNew kept)
    (carryGone : Carry ownerOld gone) {n : Int} {pair : NumberPair α} {event : ChangeEvent}
    (member : (n, pair) ∈ Member.pairs before after old new)
    (emitted : emit (n, pair) = some event) :
    AboutMember kept gone old new event ∧ event.entity.number? = some n := by
  have paired := NumberPair.sides_of? (Member.mem_pairs_iff.mp member)
  rcases emits n pair event emitted with ⟨site, b, side, entity⟩ | ⟨site, a, side, entity⟩
  · obtain ⟨inside, number⟩ := Member.mem_of_find? (paired.2 ▸ side)
    exact ⟨.inl ⟨site, b, inside, entity⟩, by rw [entity, carryKept.number, number]⟩
  · obtain ⟨inside, number⟩ := Member.mem_of_find? (paired.1 ▸ side)
    exact ⟨.inr ⟨site, a, inside, entity⟩, by rw [entity, carryGone.number, number]⟩

/-- Events that are read off the pairs of numbers stand apart. -/
theorem EmitsMembers.pairwise (emits : EmitsMembers kept gone emit)
    (carryKept : Carry ownerNew kept) (carryGone : Carry ownerOld gone)
    (soundOld : Member.Sound before old) (soundNew : Member.Sound after new) :
    ((Member.pairs before after old new).filterMap emit).Pairwise Apart := by
  rw [List.pairwise_filterMap]
  refine (List.Pairwise.and_mem.mp Member.pairwise_pairs).imp ?_
  rintro ⟨n, p⟩ ⟨k, q⟩ ⟨inP, inQ, smaller⟩ d emittedD e emittedE ⟨site, path⟩
  obtain ⟨aboutD, numberD⟩ := emits.about carryKept carryGone inP emittedD
  obtain ⟨aboutE, numberE⟩ := emits.about carryKept carryGone inQ emittedE
  have numbers := aboutD.number_eq carryKept carryGone soundOld soundNew aboutE site path
  rw [numberD, numberE] at numbers
  exact absurd (Option.some.inj numbers) (ne_of_lt smaller)

end Members

theorem pairwise_fieldEvents {old new : MessageType}
    (soundOld : Member.Sound old.reserved old.fields)
    (soundNew : Member.Sound new.reserved new.fields) :
    (old.fieldEvents new).Pairwise Apart :=
  ChangeEvent.emitsMembers_ofField?.pairwise ⟨fun _ => rfl, fun _ => rfl⟩
    ⟨fun _ => rfl, fun _ => rfl⟩ soundOld soundNew

theorem pairwise_valueEvents {old new : EnumType}
    (soundOld : Member.Sound old.reserved old.values)
    (soundNew : Member.Sound new.reserved new.values) :
    (old.valueEvents new).Pairwise Apart :=
  ChangeEvent.emitsMembers_ofValue?.pairwise ⟨fun _ => rfl, fun _ => rfl⟩
    ⟨fun _ => rfl, fun _ => rfl⟩ soundOld soundNew

theorem ChangeEvent.pairwise_withType {revision : Revision} {changes : List Change}
    {members : List ChangeEvent} (onType : revision.new.isType = true)
    (onMember : ∀ e ∈ members, e.site.onType = false) (apart : members.Pairwise Apart) :
    (withType revision changes members).Pairwise Apart := by
  unfold withType
  split
  · exact .nil
  · refine List.pairwise_cons.mpr ⟨?_, apart⟩
    rintro e member ⟨site, -⟩
    have same := congrArg Site.onType site
    rw [onMember e member] at same
    exact absurd (onType.symm.trans same) (by decide)

/-- The events of one name stand apart. -/
theorem pairwise_events_of_pair (validBase : base.Valid) (validCandidate : candidate.Valid)
    {pair : TypePair} (member : pair ∈ TypePair.all base candidate) :
    (TypeDiff.of pair).events.Pairwise Apart := by
  obtain ⟨atBase, atCandidate, -⟩ := TypePair.mem_all_iff.mp member
  simp only [TypeDiff.of, atBase, atCandidate]
  cases foundOld : base.get? pair.name with
  | none => cases candidate.get? pair.name <;> simp [ChangeEvent.ofTypes]
  | some u =>
      have before := (Snapshot.mem_of_get? foundOld).1
      cases foundNew : candidate.get? pair.name with
      | none => cases u <;> simp [ChangeEvent.ofTypes]
      | some t =>
          have after := (Snapshot.mem_of_get? foundNew).1
          cases u with
          | message old =>
              cases t with
              | message new =>
                  have soundOld := (validBase.messages _ before).sound
                  have soundNew := (validCandidate.messages _ after).sound
                  refine ChangeEvent.pairwise_withType rfl ?_
                    (pairwise_fieldEvents soundOld soundNew)
                  intro e emitted
                  exact ((mem_fieldEvents_iff soundOld soundNew).mp emitted).aboutMember.onType
              | enum new => simp [ChangeEvent.ofTypes, Apart, ChangeEvent.site]
          | enum old =>
              cases t with
              | message new => simp [ChangeEvent.ofTypes, Apart, ChangeEvent.site]
              | enum new =>
                  have soundOld := (validBase.enums _ before).sound
                  have soundNew := (validCandidate.enums _ after).sound
                  refine ChangeEvent.pairwise_withType rfl ?_
                    (pairwise_valueEvents soundOld soundNew)
                  intro e emitted
                  exact ((mem_valueEvents_iff soundOld soundNew).mp emitted).aboutMember.onType

instance : Std.Symm Apart := ⟨fun _ _ apart same => apart ⟨same.1.symm, same.2.symm⟩⟩

/-- Site and path tell an event from every other one, under all names together. -/
theorem Happens.eq_of_site_path (validBase : base.Valid) (validCandidate : candidate.Valid)
    {a b : String} {d e : ChangeEvent} (first : Happens base candidate a d)
    (second : Happens base candidate b e) (site : d.site = e.site) (path : d.path = e.path) :
    d = e := by
  obtain rfl := first.name_eq validBase validCandidate second site path
  have known : ⟨a, base.get? a, candidate.get? a⟩ ∈ TypePair.all base candidate :=
    TypePair.mem_all_iff.mpr ⟨rfl, rfl, first.known⟩
  by_contra differ
  exact (pairwise_events_of_pair validBase validCandidate known).forall
    ((happens_iff_mem_ofTypes validBase validCandidate).mp first)
    ((happens_iff_mem_ofTypes validBase validCandidate).mp second) differ ⟨site, path⟩

end Paths

end SchemaEvolution
