import SchemaEvolution.Proofs.Check.Lineage
import SchemaEvolution.Proofs.Check.Occurrence

/-! # Numbers and names that change hands

A type sets aside numbers and names independently of each other, and one revision may give up some
and take up others.  What a report owes to each of them is told by `Report.AccountsFor`, from the
two definitions alone.  Main statement: `vacancies_and_reuse_are_reported_once`.
-/

namespace SchemaEvolution

namespace TypeDef

/-- Whether some member of the type has a number and a name. -/
def Declares : TypeDef → Int → String → Prop
  | .message m, n, name => ∃ f ∈ m.fields, (f.number : Int) = n ∧ f.name = name
  | .enum e, n, name => ∃ v ∈ e.values, v.number = n ∧ v.name = name

/-- Whether the type sets a name aside. -/
def ReservesName (t : TypeDef) (name : String) : Prop := t.reserved.coversName name = true

/-- Where a member of the type is reported. -/
def memberPath (t : TypeDef) (name : String) : String := s!"{t.name}.{name}"

instance (t : TypeDef) (n : Int) : Decidable (t.Live n) :=
  match t with
  | .message m => inferInstanceAs (Decidable (∃ f ∈ m.fields, (f.number : Int) = n))
  | .enum e => inferInstanceAs (Decidable (∃ v ∈ e.values, v.number = n))

instance (t : TypeDef) (n : Int) (name : String) : Decidable (t.Declares n name) :=
  match t with
  | .message m =>
      inferInstanceAs (Decidable (∃ f ∈ m.fields, (f.number : Int) = n ∧ f.name = name))
  | .enum e => inferInstanceAs (Decidable (∃ v ∈ e.values, v.number = n ∧ v.name = name))

instance (t : TypeDef) (n : Int) : Decidable (t.Reserves n) :=
  inferInstanceAs (Decidable (t.reserved.coversNumber n = true))

instance (t : TypeDef) (name : String) : Decidable (t.ReservesName name) :=
  inferInstanceAs (Decidable (t.reserved.coversName name = true))

end TypeDef

theorem Snapshot.Valid.not_reservesName_of_declares {s : Snapshot} {t : TypeDef} (valid : s.Valid)
    (member : t ∈ s.types) {n : Int} {name : String} (declared : t.Declares n name) :
    ¬ t.ReservesName name := by
  cases t with
  | message m =>
      obtain ⟨f, inside, -, rfl⟩ := declared
      have free := (valid.messages m member).sound.nameFree f inside
      intro reserved
      exact absurd (free.symm.trans reserved) (by decide)
  | enum e =>
      obtain ⟨v, inside, -, rfl⟩ := declared
      have free := (valid.enums e member).sound.nameFree v inside
      intro reserved
      exact absurd (free.symm.trans reserved) (by decide)

/-- The rule that guards the numbers of a type once they are reserved. -/
def RuleId.ofReuse : TypeKind → RuleId
  | .message => .tagReuse
  | .enum => .enumValueReuse

theorem Rule.takesReservedName_of_mem {changes : List Change} {old new : String}
    (listed : .name old new true ∈ changes) : takesReservedName changes = true :=
  List.any_eq_true.mpr ⟨_, listed, rfl⟩

theorem Field.name_mem_changes (reserved : Reservations) {f g : Field} (renamed : f.name ≠ g.name) :
    .name f.name g.name (reserved.coversName g.name) ∈ f.changes reserved g := by
  simp [changes, renamed]

theorem EnumValue.name_mem_changes (reserved : Reservations) {v w : EnumValue}
    (renamed : v.name ≠ w.name) :
    .name v.name w.name (reserved.coversName w.name) ∈ v.changes reserved w := by
  simp [changes, renamed]

namespace ChangeEvent

variable {ctx : RuleContext} {entity : Entity} {status : ReservationStatus}

theorem isSome_unreservedRemoval (member : entity.isType = false) :
    (RuleId.unreservedRemoval.outcome? ctx (.removed entity status)).isSome =
      !status.number := by
  cases entity with
  | message | enum => cases member
  | field | value => cases reserved : status.number <;> simp [reserved]

theorem isSome_nameNotReserved (member : entity.isType = false) :
    (RuleId.nameNotReserved.outcome? ctx (.removed entity status)).isSome =
      (status.number && !status.name) := by
  cases entity with
  | message | enum => cases member
  | field | value =>
      cases reserved : status.number <;> cases named : status.name <;> simp [reserved, named]

end ChangeEvent

namespace TypeDef

variable {base candidate : Snapshot} {old new : TypeDef} (before : old ∈ base.types)
  (after : new ∈ candidate.types) (same : old.name = new.name) (kind : old.kind = new.kind)
  {n : Int} {name : String}

include before after same kind

/-- A number that is no longer in use is gone from the member that had it. -/
theorem exists_removed (declared : old.Declares n name) (gone : ¬ new.Live n) :
    ∃ entity : Entity, entity.isType = false ∧ entity.path = old.memberPath name ∧
      Happens base candidate old.name (.removed entity (.of new.reserved n name)) := by
  cases old with
  | message old =>
      cases new with
      | enum new => cases kind
      | message new =>
          obtain ⟨f, live, rfl, rfl⟩ := declared
          refine ⟨.field old f, rfl, rfl, .field before after same (.removed live ?_)⟩
          intro g member number
          exact gone ⟨g, member, congrArg Int.ofNat number⟩
  | enum old =>
      cases new with
      | message new => cases kind
      | enum new =>
          obtain ⟨v, live, rfl, rfl⟩ := declared
          refine ⟨.value old v, rfl, rfl, .value before after same (.removed live ?_)⟩
          intro w member number
          exact gone ⟨w, member, number⟩

/-- A number that was not in use is taken up by a new member.  The rule of the kind fires on it
    exactly if the number was reserved. -/
theorem exists_added (declared : new.Declares n name) (fresh : ¬ old.Live n) :
    ∃ entity : Entity, entity.isType = false ∧ entity.path = new.memberPath name ∧
      Happens base candidate old.name (.added entity (.of old.reserved n name)) ∧
      (RuleId.ofReuse new.kind).site = ⟨false, false⟩ ∧
      ∀ ctx, ((RuleId.ofReuse new.kind).outcome? ctx
        (.added entity (.of old.reserved n name))).isSome = old.reserved.coversNumber n := by
  cases old with
  | message old =>
      cases new with
      | enum new => cases kind
      | message new =>
          obtain ⟨g, live, rfl, rfl⟩ := declared
          refine ⟨.field new g, rfl, rfl, .field before after same (.added live ?_), rfl, ?_⟩
          · intro f member number
            exact fresh ⟨f, member, congrArg Int.ofNat number⟩
          · intro ctx
            change (RuleId.tagReuse.outcome? ctx _).isSome = _
            cases reserved : old.reserved.coversNumber g.number <;>
              simp [ReservationStatus.of, TypeDef.reserved, reserved]
  | enum old =>
      cases new with
      | message new => cases kind
      | enum new =>
          obtain ⟨w, live, rfl, rfl⟩ := declared
          refine ⟨.value new w, rfl, rfl, .value before after same (.added live ?_), rfl, ?_⟩
          · intro v member number
            exact fresh ⟨v, member, number⟩
          · intro ctx
            change (RuleId.enumValueReuse.outcome? ctx _).isSome = _
            cases reserved : old.reserved.coversNumber w.number <;>
              simp [ReservationStatus.of, TypeDef.reserved, reserved]

/-- A reserved name is taken by a new member, or by one that had another name before: its old name
    was in use, so it was not reserved. -/
theorem exists_named (validBase : base.Valid) (declared : new.Declares n name)
    (reserved : old.reserved.coversName name = true) :
    ∃ event, Happens base candidate old.name event ∧ event.site = ⟨false, false⟩ ∧
      event.path = new.memberPath name ∧
      ∀ ctx, RuleId.reservedNameReuse.outcome? ctx event = some .violation := by
  -- the number may have been in use before, under another name
  by_cases live : old.Live n
  case neg =>
    obtain ⟨entity, member, path, happens, -⟩ := exists_added before after same kind declared live
    refine ⟨_, happens, by rw [ChangeEvent.site, member], path, fun ctx => ?_⟩
    cases entity with
    | message | enum => cases member
    | field | value => simp [ReservationStatus.of, reserved]
  case pos =>
    cases old with
    | message old =>
        cases new with
        | enum new => cases kind
        | message new =>
            obtain ⟨f, liveOld, numberF⟩ := live
            obtain ⟨g, liveNew, numberG, rfl⟩ := declared
            have renamed : f.name ≠ g.name := fun names =>
              validBase.not_reservesName_of_declares before ⟨f, liveOld, rfl, names⟩ reserved
            have listed := Field.name_mem_changes old.reserved renamed
            have numbers := Int.ofNat_inj.mp (numberF.trans numberG.symm)
            refine ⟨_, .field before after same (.modified liveOld liveNew numbers
              (List.ne_nil_of_mem listed)), rfl, rfl, fun ctx => ?_⟩
            have taken : old.reserved.coversName g.name = true := reserved
            rw [taken] at listed
            simp [Rule.takesReservedName_of_mem listed]
    | enum old =>
        cases new with
        | message new => cases kind
        | enum new =>
            obtain ⟨v, liveOld, numberV⟩ := live
            obtain ⟨w, liveNew, numberW, rfl⟩ := declared
            have renamed : v.name ≠ w.name := fun names =>
              validBase.not_reservesName_of_declares before ⟨v, liveOld, rfl, names⟩ reserved
            have listed := EnumValue.name_mem_changes old.reserved renamed
            have numbers := numberV.trans numberW.symm
            refine ⟨_, .value before after same (.modified liveOld liveNew numbers
              (List.ne_nil_of_mem listed)), rfl, rfl, fun ctx => ?_⟩
            have taken : old.reserved.coversName w.name = true := reserved
            rw [taken] at listed
            simp [Rule.takesReservedName_of_mem listed]

end TypeDef

/-- What a report owes to the numbers and names that change hands between two revisions of a type.
    Of a number that is given up, it says that the number is free, or that only the name is, or
    nothing; of what was reserved and is in use again, it says so at the member that uses it. -/
structure Report.AccountsFor (report : Report) (old new : TypeDef) : Prop where
  complete : report.complete = true
  numberFree : ∀ n name, old.Declares n name → ¬ new.Live n → ¬ new.Reserves n →
    report.occurrences .unreservedRemoval (old.memberPath name) = 1 ∧
    report.occurrences .nameNotReserved (old.memberPath name) = 0
  nameFree : ∀ n name, old.Declares n name → ¬ new.Live n → new.Reserves n →
    ¬ new.ReservesName name →
      report.occurrences .unreservedRemoval (old.memberPath name) = 0 ∧
      report.occurrences .nameNotReserved (old.memberPath name) = 1
  retired : ∀ n name, old.Declares n name → ¬ new.Live n → new.Reserves n →
    new.ReservesName name →
      report.occurrences .unreservedRemoval (old.memberPath name) = 0 ∧
      report.occurrences .nameNotReserved (old.memberPath name) = 0
  numberReused : ∀ n name, old.Reserves n → new.Declares n name →
    report.occurrences (.ofReuse new.kind) (new.memberPath name) = 1
  nameReused : ∀ n name, old.ReservesName name → new.Declares n name →
    report.occurrences .reservedNameReuse (new.memberPath name) = 1

namespace Registry

variable {r : Registry} {base candidate : Snapshot} (distinct : r.rules.Nodup)
  (validBase : base.Valid) (validCandidate : candidate.Valid) (enabled : ∀ id, id ∈ r.rules)
  {old new : TypeDef} (before : old ∈ base.types) (after : new ∈ candidate.types)
  (same : old.name = new.name) (kind : old.kind = new.kind) {n : Int} {name : String}
  (generatedAt : Timestamp)

include distinct validBase validCandidate enabled before after same kind

/-- Two rules share the removals between them, by what the new revision reserves. -/
theorem occurrences_removed (declared : old.Declares n name) (gone : ¬ new.Live n) :
    (r.check base candidate generatedAt).occurrences .unreservedRemoval (old.memberPath name) =
        (if new.reserved.coversNumber n then 0 else 1) ∧
      (r.check base candidate generatedAt).occurrences .nameNotReserved (old.memberPath name) =
        if new.reserved.coversNumber n && !new.reserved.coversName name then 1 else 0 := by
  obtain ⟨entity, member, path, happens⟩ :=
    TypeDef.exists_removed before after same kind declared gone
  have site (id : RuleId) (looks : id.site = ⟨false, true⟩) :
      id.site = (ChangeEvent.removed entity (.of new.reserved n name)).site := by
    rw [ChangeEvent.site, member, looks]
  rw [← path]
  constructor
  · refine (occurrences_of_happens distinct validBase validCandidate happens
      (site .unreservedRemoval rfl) (enabled _) generatedAt).trans ?_
    rw [ChangeEvent.isSome_unreservedRemoval member]
    cases reserved : new.reserved.coversNumber n <;> simp [ReservationStatus.of, reserved]
  · refine (occurrences_of_happens distinct validBase validCandidate happens
      (site .nameNotReserved rfl) (enabled _) generatedAt).trans ?_
    rw [ChangeEvent.isSome_nameNotReserved member]
    rfl

theorem occurrences_reused (reserved : old.Reserves n) (declared : new.Declares n name) :
    (r.check base candidate generatedAt).occurrences (.ofReuse new.kind) (new.memberPath name) =
      1 := by
  have fresh : ¬ old.Live n := fun live => validBase.not_reserves_of_live before live reserved
  obtain ⟨entity, member, path, happens, looks, fires⟩ :=
    TypeDef.exists_added before after same kind declared fresh
  have site : (RuleId.ofReuse new.kind).site =
      (ChangeEvent.added entity (.of old.reserved n name)).site := by
    rw [ChangeEvent.site, member, looks]
  rw [← path]
  refine (occurrences_of_happens distinct validBase validCandidate happens site (enabled _)
    generatedAt).trans ?_
  exact if_pos ((fires _).trans reserved)

theorem occurrences_renamed (reserved : old.ReservesName name) (declared : new.Declares n name) :
    (r.check base candidate generatedAt).occurrences .reservedNameReuse (new.memberPath name) =
      1 := by
  obtain ⟨event, happens, site, path, fires⟩ :=
    TypeDef.exists_named before after same kind validBase declared reserved
  have looks : RuleId.reservedNameReuse.site = event.site := site.symm
  rw [← path, occurrences_of_happens distinct validBase validCandidate happens looks (enabled _),
    fires]
  rfl

end Registry

/-- Whatever becomes of the numbers and names of a type that keeps its kind, a run of all rules
    reports it once, at the member that it befalls, and never says both that a number is free and
    that only its name is. -/
theorem vacancies_and_reuse_are_reported_once {base candidate : Snapshot} {settings : Settings}
    {r : Registry} (builtBase : base.IsBuilt) (builtCandidate : candidate.IsBuilt)
    (ok : Registry.ofSettings settings = .ok r) (allRules : r.rules = RuleId.all)
    {old new : TypeDef} (before : old ∈ base.types) (after : new ∈ candidate.types)
    (same : old.name = new.name) (kind : old.kind = new.kind) (generatedAt : Timestamp) :
    (r.check base candidate generatedAt).AccountsFor old new := by
  have distinct := Registry.nodup_rules ok
  have enabled (id : RuleId) : id ∈ r.rules := by
    rw [allRules]
    exact id.mem_all
  have removed {n : Int} {name : String} (declared : old.Declares n name) (gone : ¬ new.Live n) :=
    Registry.occurrences_removed distinct builtBase.valid builtCandidate.valid enabled before after
      same kind generatedAt declared gone
  refine
    { complete := Registry.check_complete generatedAt
      numberFree := ?_
      nameFree := ?_
      retired := ?_
      numberReused := fun n name reserved declared =>
        Registry.occurrences_reused distinct builtBase.valid builtCandidate.valid enabled before
          after same kind generatedAt reserved declared
      nameReused := fun n name reserved declared =>
        Registry.occurrences_renamed distinct builtBase.valid builtCandidate.valid enabled before
          after same kind generatedAt reserved declared }
  · intro n name declared gone free
    rw [TypeDef.Reserves, Bool.not_eq_true] at free
    obtain ⟨number, names⟩ := removed declared gone
    simp [number, names, free]
  · intro n name declared gone reserved free
    rw [TypeDef.Reserves] at reserved
    rw [TypeDef.ReservesName, Bool.not_eq_true] at free
    obtain ⟨number, names⟩ := removed declared gone
    simp [number, names, reserved, free]
  · intro n name declared gone reserved named
    rw [TypeDef.Reserves] at reserved
    rw [TypeDef.ReservesName] at named
    obtain ⟨number, names⟩ := removed declared gone
    simp [number, names, reserved, named]

/-- An order before a number of its fields are retired. -/
def orderFull : Snapshot where
  label := "full"
  version := none
  types := [.message ⟨"acme.Order", .proto3,
    [⟨1, "id", .scalar .int64, .singular, false, none⟩,
      ⟨2, "coupon", .scalar .string, .singular, false, none⟩,
      ⟨3, "note", .scalar .string, .singular, false, none⟩,
      ⟨4, "gift", .scalar .bool, .singular, false, none⟩,
      ⟨5, "total", .scalar .int64, .singular, false, none⟩],
    ⟨[.single 7], .ofList ["price"]⟩⟩]

/-- The order without its coupon, note and gift, of which the coupon is not reserved at all and the
    note only by number.  The total takes a reserved name, and the tip a reserved number. -/
def orderTrimmed : Snapshot where
  label := "trimmed"
  version := none
  types := [.message ⟨"acme.Order", .proto3,
    [⟨1, "id", .scalar .int64, .singular, false, none⟩,
      ⟨5, "price", .scalar .int64, .singular, false, none⟩,
      ⟨7, "tip", .scalar .int64, .singular, false, none⟩],
    ⟨[⟨3, 4⟩], .ofList ["gift"]⟩⟩]

/-- Each of the five fates of a number or a name, at its own field of the order. -/
theorem trimmed_order_is_accounted_for :
    ∃ r, Registry.ofSettings {} = .ok r ∧
      ∃ report, r.check orderFull orderTrimmed .epoch = report ∧
        report.occurrences .unreservedRemoval "acme.Order.coupon" = 1 ∧
        report.occurrences .nameNotReserved "acme.Order.note" = 1 ∧
        report.occurrences .unreservedRemoval "acme.Order.gift" = 0 ∧
        report.occurrences .tagReuse "acme.Order.tip" = 1 ∧
        report.occurrences .reservedNameReuse "acme.Order.price" = 1 := by
  have builtBase : orderFull.IsBuilt := ⟨⟨"full", none, orderFull.types⟩, by decide +kernel⟩
  have builtCandidate : orderTrimmed.IsBuilt :=
    ⟨⟨"trimmed", none, orderTrimmed.types⟩, by decide +kernel⟩
  have accounts := vacancies_and_reuse_are_reported_once builtBase builtCandidate
    Registry.ofSettings_default rfl (List.mem_singleton.mpr rfl) (List.mem_singleton.mpr rfl) rfl
    rfl .epoch
  refine ⟨.default, Registry.ofSettings_default, _, rfl, ?_, ?_, ?_, ?_, ?_⟩
  · exact (accounts.numberFree 2 "coupon" (by decide) (by decide) (by decide)).1
  · exact (accounts.nameFree 3 "note" (by decide) (by decide) (by decide) (by decide)).2
  · exact (accounts.retired 4 "gift" (by decide) (by decide) (by decide) (by decide)).1
  · exact accounts.numberReused 7 "tip" (by decide) (by decide)
  · exact accounts.nameReused 5 "price" (by decide) (by decide)

end SchemaEvolution
