import SchemaEvolution.Proofs.Check.Portion
import SchemaEvolution.Proofs.Check.Silence
import SchemaEvolution.Proofs.Check.Verdict

/-! # What the events of two definitions count

The counts of one name, told without the diff.  Members count by their numbers: those that are live
on one side, and those that are live on both sides with members that differ
(`ReadsOff.ofEvents_eq`).  The type counts once if it differs itself, however many of its parts do
(`TypeDef.ofEvents_ofTypes`).  A name of which the kind changed counts once on either side, and its
members do not count at all.
-/

namespace SchemaEvolution

namespace Member

variable {α : Type} [Member α]

/-- The numbers that some member has. -/
def liveNumbers (members : List α) : Finset Int := (members.map number).toFinset

/-- The numbers under which both lists have a member, but not the same one. -/
def altered [DecidableEq α] (old new : List α) : Finset Int :=
  (liveNumbers old).filter fun n => ∃ a ∈ old, ∃ b ∈ new, number a = n ∧ number b = n ∧ a ≠ b

end Member

namespace TypeDef

/-- The numbers of the members of a type. -/
def liveNumbers : TypeDef → Finset Int
  | message m => Member.liveNumbers m.fields
  | enum e => Member.liveNumbers e.values

def dialect : TypeDef → Dialect
  | message m => m.dialect
  | enum e => e.dialect

/-- Whether the type is an enum with a zero value. -/
def hasZero : TypeDef → Bool
  | message _ => false
  | enum e => e.hasZero

/-- Whether two definitions of one kind differ, their members aside. -/
def Differs (old new : TypeDef) : Prop :=
  old.dialect ≠ new.dialect ∨ old.hasZero ≠ new.hasZero ∨
    old.reserved.ranges.toFinset ≠ new.reserved.ranges.toFinset ∨
    old.reserved.names ≠ new.reserved.names

instance : DecidableRel Differs := fun _ _ => inferInstanceAs (Decidable (_ ∨ _))

/-- The numbers under which two definitions of one kind have members that differ. -/
def altered : TypeDef → TypeDef → Finset Int
  | message old, message new => Member.altered old.fields new.fields
  | enum old, enum new => Member.altered old.values new.values
  | _, _ => ∅

theorem Differs.symm {old new : TypeDef} (differ : old.Differs new) : new.Differs old :=
  differ.imp Ne.symm (Or.imp Ne.symm (Or.imp Ne.symm Ne.symm))

end TypeDef

/-- A sum along a sorted list is one over the set that the list stands for. -/
theorem Sorted.sum_map_sortDistinct {α : Type} [DecidableEq α] {lt : α → α → Bool}
    (order : IsStrictOrder lt) (as : List α) (count : α → DiffStats) :
    ((sortDistinct lt as).map count).sum = ∑ a ∈ as.toFinset, count a := by
  have same : (sortDistinct lt as).toFinset = as.toFinset := by
    ext a
    simp [mem_sortDistinct order]
  rw [← same, List.sum_toFinset _ (nodup_of_pairwise order (pairwise_sortDistinct order as))]

namespace DiffStats

variable {ι : Type}

theorem zero_def : (0 : DiffStats) = ⟨0, 0, 0⟩ := rfl

theorem mk_add_mk (added removed modified added' removed' modified' : Nat) :
    (⟨added, removed, modified⟩ : DiffStats) + ⟨added', removed', modified'⟩ =
      ⟨added + added', removed + removed', modified + modified'⟩ := rfl

theorem sum_mk (s : Finset ι) (added removed modified : ι → Nat) :
    ∑ i ∈ s, (⟨added i, removed i, modified i⟩ : DiffStats) =
      ⟨∑ i ∈ s, added i, ∑ i ∈ s, removed i, ∑ i ∈ s, modified i⟩ := by
  induction s using Finset.cons_induction with
  | empty => rfl
  | cons i s fresh ih =>
      rw [Finset.sum_cons, ih, Finset.sum_cons, Finset.sum_cons, Finset.sum_cons, mk_add_mk]

/-- What an entry counts for by the sets that it is in. -/
def tally [DecidableEq ι] (added removed modified : Finset ι) (i : ι) : DiffStats :=
  ⟨if i ∈ added then 1 else 0, if i ∈ removed then 1 else 0, if i ∈ modified then 1 else 0⟩

/-- Over all entries the sets count by their sizes. -/
theorem sum_tally [DecidableEq ι] {s added removed modified : Finset ι} (inAdded : added ⊆ s)
    (inRemoved : removed ⊆ s) (inModified : modified ⊆ s) :
    ∑ i ∈ s, tally added removed modified i = ⟨added.card, removed.card, modified.card⟩ := by
  have size {part : Finset ι} (inside : part ⊆ s) :
      ∑ i ∈ s, (if i ∈ part then 1 else 0) = part.card := by
    rw [Finset.sum_ite_mem, Finset.inter_eq_right.mpr inside, Finset.card_eq_sum_ones]
  unfold tally
  rw [sum_mk, size inAdded, size inRemoved, size inModified]

/-- What is read off some entries counts entry by entry. -/
theorem ofEvents_filterMap (read : ι → Option ChangeEvent) (entries : List ι) :
    ofEvents (entries.filterMap read) = (entries.map fun i => (read i).elim 0 ofEvent).sum := by
  induction entries with
  | nil => rfl
  | cons i rest ih =>
      rw [List.map_cons, List.sum_cons, ← ih]
      cases found : read i with
      | none => rw [List.filterMap_cons_none found, Option.elim_none, zero_add]
      | some event =>
          rw [List.filterMap_cons_some found]
          rfl

/-- The event of a type counts, if the type itself changed, beside those of its members. -/
theorem ofEvents_withType (revision : Revision) {changes : List Change}
    {members : List ChangeEvent} {differs : Prop} [Decidable differs]
    (silent : changes = [] ↔ ¬ differs) {added removed modified : Nat}
    (counted : ofEvents members = ⟨added, removed, modified⟩) :
    ofEvents (ChangeEvent.withType revision changes members) =
      ⟨added, removed, (if differs then 1 else 0) + modified⟩ := by
  unfold ChangeEvent.withType
  cases changes with
  | nil =>
      rw [if_neg (silent.mp rfl), zero_add, ← counted]
      -- the event, if there is one, only stands in front of those of the members
      cases members with
      | nil => rfl
      | cons first rest => exact zero_add (ofEvents (first :: rest))
  | cons first rest =>
      have changed : differs := by simpa using silent
      change (⟨0, 0, 1⟩ : DiffStats) + ofEvents members = _
      rw [if_pos changed, counted, mk_add_mk, zero_add, zero_add]

end DiffStats

section Members

namespace Member

variable {α : Type} [Member α] {before after : Reservations} {old new : List α}

theorem mem_liveNumbers {members : List α} {n : Int} :
    n ∈ liveNumbers members ↔ find? members n ≠ none := by
  rw [Ne, find?_eq_none_iff]
  simp [liveNumbers]

theorem mem_altered [DecidableEq α] (soundOld : Sound before old) (soundNew : Sound after new)
    {n : Int} :
    n ∈ altered old new ↔ ∃ a b, find? old n = some a ∧ find? new n = some b ∧ a ≠ b := by
  simp only [altered, Finset.mem_filter, mem_liveNumbers, soundOld.find?_eq_some_iff,
    soundNew.find?_eq_some_iff, ne_eq, find?_eq_none_iff]
  constructor
  · rintro ⟨-, a, inOld, b, inNew, numberA, numberB, differ⟩
    exact ⟨a, b, ⟨inOld, numberA⟩, ⟨inNew, numberB⟩, differ⟩
  · rintro ⟨a, b, ⟨inOld, numberA⟩, ⟨inNew, numberB⟩, differ⟩
    exact ⟨fun none => none a inOld numberA, a, inOld, b, inNew, numberA, numberB, differ⟩

theorem altered_subset_swap [DecidableEq α] : altered old new ⊆ altered new old := by
  intro n member
  simp only [altered, liveNumbers, Finset.mem_filter, List.mem_toFinset, List.mem_map] at member ⊢
  obtain ⟨-, a, inOld, b, inNew, numberA, numberB, differ⟩ := member
  exact ⟨⟨b, inNew, numberB⟩, b, inNew, a, inOld, numberB, numberA, differ.symm⟩

theorem altered_comm [DecidableEq α] : altered old new = altered new old :=
  altered_subset_swap.antisymm altered_subset_swap

end Member

variable {α : Type} [Member α] [DecidableEq α] {before after : Reservations} {old new : List α}
  {kept gone : α → Entity} {changes : α → α → List Change} {revision : α → α → Revision}
  {emit : Int × NumberPair α → Option ChangeEvent}
  (reads : ReadsOff before after kept gone changes revision emit)
  (soundOld : Member.Sound before old) (soundNew : Member.Sound after new)
  (silent : ∀ a b, Member.number a = Member.number b → (changes a b = [] ↔ a = b))
include reads soundOld soundNew silent

/-- What is read off the pair of a number counts by the sides that the number is live on. -/
theorem ReadsOff.ofEvent_eq_tally (n : Int) :
    (((NumberPair.of? n before after (Member.find? old n) (Member.find? new n)).map (n, ·)).bind
        emit).elim 0 DiffStats.ofEvent =
      .tally (Member.liveNumbers new \ Member.liveNumbers old)
        (Member.liveNumbers old \ Member.liveNumbers new) (Member.altered old new) n := by
  have differ : n ∈ Member.altered old new ↔ _ := Member.mem_altered soundOld soundNew
  simp only [DiffStats.tally, Finset.mem_sdiff, Member.mem_liveNumbers]
  cases foundOld : Member.find? old n with
  | none =>
      have outside : n ∉ Member.altered old new := by simp [differ, foundOld]
      cases foundNew : Member.find? new n with
      | none => simp [NumberPair.of?, outside, DiffStats.zero_def]
      | some b => simp [NumberPair.of?, reads.added, DiffStats.ofEvent, outside]
  | some a =>
      cases foundNew : Member.find? new n with
      | none =>
          have outside : n ∉ Member.altered old new := by simp [differ, foundNew]
          simp [NumberPair.of?, reads.removed, DiffStats.ofEvent, outside]
      | some b =>
          have same : Member.number a = Member.number b :=
            (Member.mem_of_find? foundOld).2.trans (Member.mem_of_find? foundNew).2.symm
          simp only [NumberPair.of?, Option.map_some, Option.bind_some, reads.matched]
          by_cases equal : a = b
          · have outside : n ∉ Member.altered old new := by
              simp [differ, foundOld, foundNew, equal]
            simp [(silent a b same).mpr equal, outside, DiffStats.zero_def]
          · have inside : n ∈ Member.altered old new := by
              simp [differ, foundOld, foundNew, equal]
            simp [mt (silent a b same).mp equal, inside, DiffStats.ofEvent]

/-- The events of members count the numbers that are live on one side, and those that are live on
    both sides with members that differ. -/
theorem ReadsOff.ofEvents_eq :
    DiffStats.ofEvents ((Member.pairs before after old new).filterMap emit) =
      ⟨(Member.liveNumbers new \ Member.liveNumbers old).card,
        (Member.liveNumbers old \ Member.liveNumbers new).card,
        (Member.altered old new).card⟩ := by
  rw [Member.pairs, List.filterMap_filterMap, DiffStats.ofEvents_filterMap, Member.numbers,
    Sorted.sum_map_sortDistinct Member.intBefore_isStrictOrder, List.toFinset_append,
    Finset.sum_congr rfl fun n _ => reads.ofEvent_eq_tally soundOld soundNew silent n]
  exact DiffStats.sum_tally (Finset.sdiff_subset.trans Finset.subset_union_right)
    (Finset.sdiff_subset.trans Finset.subset_union_left)
    ((Finset.filter_subset _ _).trans Finset.subset_union_left)

end Members

section Changes

/-- Fields with one tag that differ in no part are one. -/
theorem Field.changes_eq_nil_iff_eq {reserved : Reservations} (f g : Field)
    (same : Member.number f = Member.number g) : f.changes reserved g = [] ↔ f = g := by
  obtain ⟨number, name, type, cardinality, packed, default⟩ := f
  obtain ⟨_, name', type', cardinality', packed', default'⟩ := g
  obtain rfl := Int.ofNat_inj.mp same
  simp [changes_eq_nil_iff]

theorem EnumValue.changes_eq_nil_iff_eq {reserved : Reservations} (v w : EnumValue)
    (same : Member.number v = Member.number w) : v.changes reserved w = [] ↔ v = w := by
  obtain ⟨number, name⟩ := v
  obtain ⟨_, name'⟩ := w
  obtain rfl : number = _ := same
  simp [changes]

theorem Reservations.changes_eq_nil_iff_sets {r q : Reservations} :
    r.changes q = [] ↔ r.ranges.toFinset = q.ranges.toFinset ∧ r.names = q.names := by
  rw [changes_eq_nil_iff]
  constructor
  · intro alike
    exact ⟨by ext range; simp [alike.ranges range], alike.names⟩
  · rintro ⟨ranges, names⟩
    exact ⟨fun range => by simpa using Finset.ext_iff.mp ranges range, names⟩

theorem MessageType.changes_eq_nil_iff {old new : MessageType} :
    old.changes new = [] ↔ ¬ (TypeDef.message old).Differs (.message new) := by
  simp [changes, TypeDef.Differs, TypeDef.dialect, TypeDef.hasZero, TypeDef.reserved,
    Reservations.changes_eq_nil_iff_sets]

theorem EnumType.changes_eq_nil_iff {old new : EnumType} :
    old.changes new = [] ↔ ¬ (TypeDef.enum old).Differs (.enum new) := by
  simp [changes, TypeDef.Differs, TypeDef.dialect, TypeDef.hasZero, TypeDef.reserved,
    Reservations.changes_eq_nil_iff_sets]

end Changes

namespace TypeDef

variable {base candidate : Snapshot} {old new : TypeDef}

theorem altered_comm (old new : TypeDef) : old.altered new = new.altered old := by
  cases old with
  | message old =>
      cases new with
      | message new => exact Member.altered_comm
      | enum new => rfl
  | enum old =>
      cases new with
      | message new => rfl
      | enum new => exact Member.altered_comm

/-- What the events between two definitions of one kind count. -/
theorem ofEvents_ofTypes (validBase : base.Valid) (validCandidate : candidate.Valid)
    (before : old ∈ base.types) (after : new ∈ candidate.types) (kind : old.kind = new.kind) :
    DiffStats.ofEvents (ChangeEvent.ofTypes (some old) (some new)) =
      ⟨(new.liveNumbers \ old.liveNumbers).card, (old.liveNumbers \ new.liveNumbers).card,
        (if old.Differs new then 1 else 0) + (old.altered new).card⟩ := by
  cases old with
  | message old =>
      cases new with
      | enum new => cases kind
      | message new =>
          exact DiffStats.ofEvents_withType _ MessageType.changes_eq_nil_iff
            ((ChangeEvent.readsOff_ofField? old new).ofEvents_eq
              (validBase.messages old before).sound (validCandidate.messages new after).sound
              Field.changes_eq_nil_iff_eq)
  | enum old =>
      cases new with
      | message new => cases kind
      | enum new =>
          exact DiffStats.ofEvents_withType _ EnumType.changes_eq_nil_iff
            ((ChangeEvent.readsOff_ofValue? old new).ofEvents_eq
              (validBase.enums old before).sound (validCandidate.enums new after).sound
              EnumValue.changes_eq_nil_iff_eq)

/-- A name of which the kind changed counts once on either side. -/
theorem ofEvents_ofTypes_of_ne (kind : old.kind ≠ new.kind) :
    DiffStats.ofEvents (ChangeEvent.ofTypes (some old) (some new)) = ⟨1, 1, 0⟩ := by
  cases old with
  | message old =>
      cases new with
      | message new => exact absurd rfl kind
      | enum new => rfl
  | enum old =>
      cases new with
      | message new => rfl
      | enum new => exact absurd rfl kind

end TypeDef

end SchemaEvolution
