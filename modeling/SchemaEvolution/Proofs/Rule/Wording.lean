import SchemaEvolution.Proofs.Check.Findings

/-! # What rules say

A finding about an event that a rule could not judge says so in front, and no other finding opens
with the same words (`Registry.reportsFault_iff`).  The messages of most rules open with a
letter of their own; that of a message with many fields opens with its name, and a name does not go
on like that.
-/

namespace SchemaEvolution

/-- Whether a message says that a rule could not judge. -/
def ReportsFault (message : String) : Prop := ∃ reason, message = "unable to evaluate: " ++ reason

/-- A text with another letter in front than a report of a fault has. -/
def OpensOtherwise (text : String) : Prop := ∃ c rest, text.toList = c :: rest ∧ c ≠ 'u'

namespace OpensOtherwise

theorem append {text : String} (opens : OpensOtherwise text) (rest : String) :
    OpensOtherwise (text ++ rest) := by
  obtain ⟨c, later, chars, other⟩ := opens
  exact ⟨c, later ++ rest.toList, by rw [String.toList_append, chars, List.cons_append], other⟩

theorem not_reportsFault {message : String} (opens : OpensOtherwise message) :
    ¬ ReportsFault message := by
  rintro ⟨reason, rfl⟩
  obtain ⟨c, rest, chars, other⟩ := opens
  simp at chars
  exact other chars.1.symm

end OpensOtherwise

/-- What follows the first word is not what follows a name. -/
theorem not_reportsFault_of_name {name rest : String} (blank : ' ' ∉ name.toList)
    (other : rest.toList.head? ≠ some 't') : ¬ ReportsFault (name ++ " " ++ rest) := by
  rintro ⟨reason, same⟩
  have chars : name.toList ++ ' ' :: rest.toList =
      "unable".toList ++ ' ' :: 't' :: ("o evaluate: ".toList ++ reason.toList) := by
    simpa using congrArg String.toList same
  have inWord {word : List Char} (noBlank : ' ' ∉ word) : ∀ c ∈ word, decide (c ≠ ' ') = true := by
    intro c member
    rw [decide_eq_true_iff]
    rintro rfl
    exact noBlank member
  have tails := congrArg (List.dropWhile (· ≠ ' ')) chars
  rw [List.dropWhile_append_of_pos (inWord blank),
    List.dropWhile_append_of_pos (inWord (by simp))] at tails
  obtain ⟨-, rests⟩ := List.cons_eq_cons.mp tails
  rw [rests] at other
  exact other rfl

namespace Observation

@[simp] theorem message_violation (message : String) : (violation message).message = message := rfl

@[simp] theorem message_between (o : Observation) (old new : String) :
    (o.between old new).message = o.message := rfl

@[simp] theorem message_was (o : Observation) (old : String) : (o.was old).message = o.message :=
  rfl

@[simp] theorem message_now (o : Observation) (new : String) : (o.now new).message = o.message :=
  rfl

end Observation

/-- Types that are compared by their definitions are called by their kind. -/
theorem FieldType.opensOtherwise_text {old new : FieldType}
    (compares : old.compare new = .ok .structural) : OpensOtherwise new.text := by
  unfold compare at compares
  split at compares
  · cases compares
  · split at compares
    · cases compares
    · split at compares
      case isFalse => cases converts : old.conversion? new <;> simp [converts] at compares
      case isTrue differ _ family =>
        cases new with
        | scalar kind =>
            cases old with
            | scalar other => exact absurd (congrArg scalar (beq_iff_eq.mp family)) differ
            | message | enum | group => cases family
        | message name | enum name | group name => simp [OpensOtherwise, text, toString]

theorem TypeKind.opensOtherwise_text (kind : TypeKind) : OpensOtherwise kind.text := by
  cases kind <;> simp [OpensOtherwise, text]

theorem Entity.opensOtherwise_sort (entity : Entity) : OpensOtherwise entity.sort := by
  cases entity <;> simp [OpensOtherwise, sort]

namespace Rule

variable {ctx : RuleContext} {event : ChangeEvent} {o : Observation}

theorem opens_judgeType {old new : FieldType} {changed : Bool} {comparison : TypeComparison}
    (compares : old.compare new = .ok comparison)
    (said : judgeType ctx old new changed comparison = .ok (some o)) :
    OpensOtherwise o.message := by
  cases comparison with
  | same => cases said
  | incompatible =>
      cases said
      simp [OpensOtherwise, toString]
  | convertible conversion =>
      simp only [judgeType] at said
      split at said
      · cases said
        simp [OpensOtherwise, toString]
      · split at said <;> cases said
        simp [OpensOtherwise, toString]
  | structural =>
      obtain ⟨answer, -, said⟩ := bind_eq_ok_iff.mp said
      split at said <;> cases said
      exact ((FieldType.opensOtherwise_text compares).append _).append _

theorem opens_typeChange (said : typeChange ctx event = .ok (some o)) :
    OpensOtherwise o.message := by
  unfold typeChange at said
  split at said
  case h_2 => cases said
  case h_1 old new changes =>
    split at said
    · cases said
    · obtain ⟨comparison, compares, said⟩ := bind_eq_ok_iff.mp said
      obtain ⟨verdict, judged, said⟩ := bind_eq_ok_iff.mp said
      obtain ⟨observed, rfl, rfl⟩ := Option.map_eq_some_iff.mp (Except.ok.inj said)
      exact opens_judgeType (o := observed) compares judged

theorem opens_unreservedRemoval (said : unreservedRemoval event = some o) :
    OpensOtherwise o.message := by
  unfold unreservedRemoval at said
  split at said
  case h_2 => cases said
  case h_1 entity after =>
    split at said
    · cases said
    · split at said <;> cases said
      exact ((((entity.opensOtherwise_sort.append _).append _).append _).append _).append _

theorem opens_nameNotReserved (said : nameNotReserved event = some o) :
    OpensOtherwise o.message := by
  unfold nameNotReserved at said
  split at said
  case h_2 => cases said
  case h_1 entity after =>
    split at said <;> cases said
    exact (((entity.opensOtherwise_sort.append _).append _).append _).append _

theorem opens_reservationDropped (said : reservationDropped event = some o) :
    OpensOtherwise o.message := by
  have reported {name : String} {gone : List String}
      (said : reservationDropped.report name gone = some o) : OpensOtherwise o.message := by
    simp only [reservationDropped.report] at said
    split at said <;> cases said
    simp [OpensOtherwise, toString]
  unfold reservationDropped at said
  split at said
  · exact reported said
  · exact reported said
  · cases said

theorem opens_removedType (name : String) (kind : TypeKind) :
    OpensOtherwise (removedType ctx name kind).message := by
  have kinds := kind.opensOtherwise_text
  unfold removedType
  split
  · rw [Observation.message_was, Observation.message_violation]
    exact (((((kinds.append _).append _).append _).append _).append _).append _
  · split
    · rw [Observation.message_was, Observation.message_now, Observation.message_violation]
      exact ((((kinds.append _).append _).append _).append _).append _
    · rw [Observation.message_was, Observation.message_violation]
      exact (((kinds.append _).append _).append _).append _

theorem opens_typeRemoved (said : typeRemoved ctx event = some o) :
    OpensOtherwise o.message := by
  unfold typeRemoved at said
  split at said <;> cases said <;> exact opens_removedType _ _

/-- Messages about the number of fields are the only ones that open with a name. -/
theorem not_reportsFault_fieldCount
    (qualified : ∀ m, event.entity = .message m → Identifier.isQualified m.name.toList = true)
    (said : fieldCount ctx event = some o) : ¬ ReportsFault o.message := by
  have counted {before : Nat} {m : MessageType} (here : event.entity = .message m)
      (said : grown ctx before m = some o) : ¬ ReportsFault o.message := by
    simp only [grown] at said
    split at said <;> cases said
    rw [Observation.message_between, Observation.message_violation]
    have words (count threshold : Nat) :
        s!"{m.name} has {count} fields (threshold {threshold})" =
          m.name ++ " " ++ s!"has {count} fields (threshold {threshold})" := by
      rw [← String.toList_inj]
      simp [toString]
    rw [words]
    exact not_reportsFault_of_name (Identifier.blank_not_mem (qualified m here))
      (by simp [toString])
  unfold fieldCount at said
  split at said
  · exact counted rfl said
  · exact counted rfl said
  · cases said

end Rule

/-- No rule that judged an event says that it could not. -/
theorem RuleId.not_reportsFault_of_check {ctx : RuleContext} {event : ChangeEvent} {id : RuleId}
    {o : Observation}
    (qualified : ∀ m, event.entity = .message m → Identifier.isQualified m.name.toList = true)
    (said : id.check ctx event = .ok (some o)) : ¬ ReportsFault o.message := by
  cases id with
  | fieldCount => exact Rule.not_reportsFault_fieldCount qualified (Except.ok.inj said)
  | typeChange => exact (Rule.opens_typeChange said).not_reportsFault
  | typeRemoved => exact (Rule.opens_typeRemoved (Except.ok.inj said)).not_reportsFault
  | unreservedRemoval => exact (Rule.opens_unreservedRemoval (Except.ok.inj said)).not_reportsFault
  | nameNotReserved => exact (Rule.opens_nameNotReserved (Except.ok.inj said)).not_reportsFault
  | reservationDropped =>
      exact (Rule.opens_reservationDropped (Except.ok.inj said)).not_reportsFault
  | tagReuse | requiredAdded | enumDefault | enumValueReuse | repeatedToScalar
  | defaultValueChanged | reservedNameReuse =>
      refine OpensOtherwise.not_reportsFault ?_
      simp only [check, Except.ok.injEq, Rule.tagReuse, Rule.requiredAdded, Rule.enumDefault,
        Rule.enumValueReuse, Rule.repeatedToScalar, Rule.defaultValueChanged,
        Rule.reservedNameReuse] at said
      (repeat' split at said) <;> cases said
      all_goals simp [OpensOtherwise, Observation.between, toString]

/-- Whatever happens to a message happens to one with a name. -/
theorem Happens.isQualified {base candidate : Snapshot} (validBase : base.Valid)
    (validCandidate : candidate.Valid) {name : String} {event : ChangeEvent}
    (happens : Happens base candidate name event) (m : MessageType)
    (here : event.entity = .message m) : Identifier.isQualified m.name.toList = true := by
  cases happens with
  | @typeAdded t after =>
      cases t with
      | enum => cases here
      | message =>
          cases here
          exact validCandidate.qualified _ after
  | @typeRemoved t before =>
      cases t with
      | enum => cases here
      | message =>
          cases here
          exact validBase.qualified _ before
  | message before after =>
      cases here
      exact validCandidate.qualified _ after
  | field before after same happens => cases happens <;> cases here
  | enum => cases here
  | value before after same happens => cases happens <;> cases here

/-- A finding says that its rule could not judge exactly if that is so. -/
theorem Registry.reportsFault_iff {r : Registry} {ctx : RuleContext} {name : String}
    {event : ChangeEvent} {id : RuleId} {f : Finding}
    (qualified : ∀ m, event.entity = .message m → Identifier.isQualified m.name.toList = true)
    (found : r.findingOf ctx name event id = some f) :
    ReportsFault f.message ↔ ∃ fault, id.check ctx event = .error fault := by
  unfold findingOf at found
  cases answered : id.check ctx event with
  | error fault =>
      rw [answered] at found
      cases found
      exact ⟨fun _ => ⟨fault, rfl⟩, fun _ => ⟨fault.message, rfl⟩⟩
  | ok answer =>
      rw [answered] at found
      obtain ⟨o, rfl, rfl⟩ := Option.map_eq_some_iff.mp found
      constructor
      · intro reports
        exact absurd reports (RuleId.not_reportsFault_of_check qualified answered)
      · rintro ⟨fault, differ⟩
        cases differ

end SchemaEvolution
