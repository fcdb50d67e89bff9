import SchemaEvolution.Proofs.Wire.Refusal

/-! # What cannot be judged

Between two valid snapshots nothing that a field refers to is missing, so a comparison fails for
one reason only: a group stands on one side and another type on the other (`WireFault.OfGroup`).
The base is only asked for names that its own fields refer to, and so is the candidate; this
carries over from a pair of messages to the demands that its expansion makes (`Leads.ofGroup`), and
so through the whole walk (`fault_of_references`).  Such a fault may stand beside a plain no; without
groups all that is refused is refused by a plain no (`unanimous_of_groupless`).
-/

namespace SchemaEvolution

/-- A snapshot without a group. -/
def Snapshot.Groupless (s : Snapshot) : Prop :=
  ∀ m, .message m ∈ s.types → ∀ f ∈ m.fields, f.type.isGroup = false

/-- Whether some field of a snapshot is of a type. -/
def Snapshot.Declares (s : Snapshot) (t : FieldType) : Prop :=
  ∃ m, .message m ∈ s.types ∧ ∃ f ∈ m.fields, f.type = t

/-- A fault of two declared types that are not the same, one of which is a group. -/
inductive WireFault.OfGroup (base candidate : Snapshot) : WireFault → Prop
  | intro {t u : FieldType} (before : base.Declares t) (after : candidate.Declares u)
      (differ : t ≠ u) (group : (t.isGroup || u.isGroup) = true) :
      OfGroup base candidate (.unclassifiable t u)

theorem WireFault.OfGroup.not_groupless {base candidate : Snapshot} {fault : WireFault}
    (ofGroup : fault.OfGroup base candidate) (plainBase : base.Groupless)
    (plainCandidate : candidate.Groupless) : False := by
  obtain ⟨⟨m, before, f, liveOld, rfl⟩, ⟨n, after, g, liveNew, rfl⟩, -, group⟩ := ofGroup
  rw [plainBase m before f liveOld, plainCandidate n after g liveNew] at group
  cases group

namespace FieldType

theorem fault_of_compare {t u : FieldType} {fault : WireFault} (failed : t.compare u = .error fault) :
    fault = .unclassifiable t u ∧ t ≠ u ∧ (t.isGroup || u.isGroup) = true := by
  unfold compare at failed
  split at failed
  case isTrue => cases failed
  case isFalse differ =>
    split at failed
    case isTrue group =>
      cases failed
      exact ⟨rfl, differ, group⟩
    case isFalse => split at failed <;> cases failed

end FieldType

namespace Superset

theorem mem_demands {old new : MessageType} {d : Demand} (member : d ∈ demands old new) :
    d = none ∨ ∃ f ∈ old.fields, ∃ g ∈ new.fields, d = some (f.type, g.type) := by
  obtain ⟨f, live, rfl⟩ := List.mem_map.mp member
  unfold demand
  split
  case h_1 => exact .inl rfl
  case h_2 g found =>
    split
    case isTrue => exact .inr ⟨f, live, g, List.mem_of_find?_eq_some found, rfl⟩
    case isFalse => exact .inl rfl

variable {s : Superset} {fault : WireFault} (validBase : s.base.Valid)
  (validCandidate : s.candidate.Valid) {m n : MessageType} {f g : Field}

include validBase validCandidate

/-- Two enums that fields refer to can be compared. -/
theorem exists_enums (before : .message m ∈ s.base.types) (after : .message n ∈ s.candidate.types)
    (liveOld : f ∈ m.fields) (liveNew : g ∈ n.fields) {a b : String} (isF : f.type = .enum a)
    (isG : g.type = .enum b) : ∃ said, s.enums a b = .ok said := by
  obtain ⟨old, atBase⟩ := ((validBase.messages m before).fields f liveOld).exists_enum? isF
  obtain ⟨new, atCandidate⟩ :=
    ((validCandidate.messages n after).fields g liveNew).exists_enum? isG
  exact ⟨coversValues old new, by rw [enums, atBase, atCandidate]⟩

/-- Two messages that fields refer to exist. -/
theorem exists_messagePair (before : .message m ∈ s.base.types)
    (after : .message n ∈ s.candidate.types) (liveOld : f ∈ m.fields) (liveNew : g ∈ n.fields)
    {a b : String} (isF : f.type = .message a) (isG : g.type = .message b) :
    ∃ old new, s.messagePair a b = .ok (old, new) := by
  obtain ⟨old, atBase⟩ := ((validBase.messages m before).fields f liveOld).exists_message? isF
  obtain ⟨new, atCandidate⟩ :=
    ((validCandidate.messages n after).fields g liveNew).exists_message? isG
  exact ⟨old, new, messagePair_eq_ok_iff.mpr ⟨atBase, atCandidate⟩⟩

theorem fault_of_fields (before : .message m ∈ s.base.types)
    (after : .message n ∈ s.candidate.types) (liveOld : f ∈ m.fields) (liveNew : g ∈ n.fields)
    (failed : s.answer (some (f.type, g.type)) = .error fault) :
    fault.OfGroup s.base s.candidate := by
  by_cases messages : ∃ a b, f.type = .message a ∧ g.type = .message b
  · obtain ⟨a, b, isF, isG⟩ := messages
    obtain ⟨old, new, found⟩ :=
      exists_messagePair validBase validCandidate before after liveOld liveNew isF isG
    rw [isF, isG, answer, found] at failed
    cases failed
  rw [answer_of_leaf fun a b isF isG => messages ⟨a, b, isF, isG⟩] at failed
  by_cases enums : ∃ a b, f.type = .enum a ∧ g.type = .enum b
  · obtain ⟨a, b, isF, isG⟩ := enums
    obtain ⟨said, judged⟩ :=
      exists_enums validBase validCandidate before after liveOld liveNew isF isG
    rw [isF, isG, leaf, judged] at failed
    cases failed
  rw [leaf_eq_of_compare fun a b isF isG => enums ⟨a, b, isF, isG⟩] at failed
  cases compares : f.type.compare g.type with
  | ok comparison =>
      rw [compares] at failed
      cases failed
  | error refused =>
      rw [compares] at failed
      cases failed
      obtain ⟨rfl, differ, group⟩ := FieldType.fault_of_compare compares
      exact ⟨⟨m, before, f, liveOld, rfl⟩, ⟨n, after, g, liveNew, rfl⟩, differ, group⟩

/-- Whatever a walk from two existing messages is led to fails for a group or not at all. -/
theorem Leads.ofGroup {a b : String} {old new : MessageType} (found : s.messagePair a b = .ok (old, new))
    {d : Demand} (led : s.Leads a b d) (failed : s.answer d = .error fault) :
    fault.OfGroup s.base s.candidate := by
  cases led with
  | start =>
      rw [answer, found] at failed
      cases failed
  | step _ foundStep member =>
      obtain ⟨atBase, atCandidate⟩ := messagePair_eq_ok_iff.mp foundStep
      rcases mem_demands member with rfl | ⟨f, liveOld, g, liveNew, rfl⟩
      · cases failed
      · exact fault_of_fields validBase validCandidate (Snapshot.mem_of_message? atBase)
          (Snapshot.mem_of_message? atCandidate) liveOld liveNew failed

/-- A comparison of two references fails for a group that it comes to or not at all. -/
theorem fault_of_references (before : .message m ∈ s.base.types)
    (after : .message n ∈ s.candidate.types) (liveOld : f ∈ m.fields) (liveNew : g ∈ n.fields)
    (failed : (s.references [] f.type g.type).1 = .error fault) :
    fault.OfGroup s.base s.candidate := by
  unfold references at failed
  split at failed
  case h_1 a b isF isG =>
    obtain ⟨old, new, found⟩ :=
      exists_messagePair validBase validCandidate before after liveOld liveNew isF isG
    rcases messages_eq_ok_true_or (s := s) (a := a) (b := b) with ok | ⟨d, led, -, answered⟩
    · rw [failed] at ok
      cases ok
    · exact led.ofGroup validBase validCandidate found (answered.symm.trans failed)
  case h_2 a b isF isG =>
    obtain ⟨said, judged⟩ :=
      exists_enums validBase validCandidate before after liveOld liveNew isF isG
    rw [judged] at failed
    cases failed
  case h_3 => cases failed

/-- Without groups a demand is met or it is refused by a plain no. -/
theorem unanimous_of_groupless (plainBase : s.base.Groupless)
    (plainCandidate : s.candidate.Groupless) {a b : String} (atBase : s.base.message? a = some m)
    (atCandidate : s.candidate.message? b = some n) : s.Unanimous a b := by
  have found := messagePair_eq_ok_iff.mpr ⟨atBase, atCandidate⟩
  have answered (d : Demand) (led : s.Leads a b d) (refused : s.answer d ≠ .ok true) :
      s.answer d = .ok false := by
    match answer : s.answer d with
    | .ok true => exact absurd answer refused
    | .ok false => rfl
    | .error fault =>
        have ofGroup := led.ofGroup validBase validCandidate found answer
        exact (ofGroup.not_groupless plainBase plainCandidate).elim
  intro d e ledD ledE refusedD refusedE
  rw [answered d ledD refusedD, answered e ledE refusedE]

end Superset

end SchemaEvolution
