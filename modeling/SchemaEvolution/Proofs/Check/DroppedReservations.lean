import SchemaEvolution.Proofs.Change.Replay
import SchemaEvolution.Proofs.Check.Vacancy

/-! # Reservations that are given up

The diff compares lists of ranges, but what counts is which numbers they cover.  The sweep over the
new ranges makes up for the difference: `Reservations.lostRanges` holds the old ranges that have a
number which is free now, and nothing else, in whatever way the ranges were rewritten
(`Reservations.lost_of_nonempty`).  Main statement: `dropped_reservations_are_listed`.
-/

namespace SchemaEvolution

namespace Reservations

/-- The ranges of one revision with some number that the next one leaves free, and the names that
    the next one lacks, both in order and each once. -/
structure Lost (old new : Reservations) (ranges : List ReservedRange) (names : List String) :
    Prop where
  mem_ranges : ∀ range, range ∈ ranges ↔
    range ∈ old.ranges ∧ ∃ n, range.contains n = true ∧ new.coversNumber n = false
  mem_names : ∀ name, name ∈ names ↔ old.coversName name = true ∧ new.coversName name = false
  orderedRanges : ranges.Pairwise fun a b => a.before b = true
  orderedNames : names.Pairwise fun a b => nameBefore a b = true

/-- How ranges and names are listed in a finding. -/
def listing (ranges : List ReservedRange) (names : List String) : List String :=
  ranges.map ReservedRange.text ++ names.map fun name => s!"\"{name}\""

/-- The ranges that the next revision does not list, and does not cover either. -/
def lostRanges (old new : Reservations) : List ReservedRange :=
  (old.rangesWithout new).filter fun range => !new.coversRange range

variable {old new : Reservations}

theorem rangesWithout_eq_nil (same : old.rangeSet = new.rangeSet) : old.rangesWithout new = [] := by
  simp [rangesWithout, same]

theorem namesWithout_eq_nil {s t : NameSet} (same : s = t) : s.without t = [] := by
  simp [NameSet.without, NameSet.contains, same]

theorem mem_lostRanges_iff (nonempty : ∀ range ∈ old.ranges, range.start ≤ range.stop)
    {range : ReservedRange} :
    range ∈ old.lostRanges new ↔
      range ∈ old.ranges ∧ ∃ n, range.contains n = true ∧ new.coversNumber n = false := by
  rw [lostRanges, List.mem_filter, mem_rangesWithout, and_assoc, Bool.not_eq_true']
  refine and_congr_right fun listed => ?_
  rw [← Bool.not_eq_true, coversRange_iff (nonempty range listed)]
  simp only [not_forall, Bool.not_eq_true, exists_prop, and_iff_right_iff_imp]
  rintro ⟨n, inside, free⟩ kept
  exact absurd (coversNumber_iff.mpr ⟨range, kept, inside⟩) (by rw [free]; decide)

/-- Where no range is empty, what is lost is what the sweep and the comparison of names leave. -/
theorem lost_of_nonempty (nonempty : ∀ range ∈ old.ranges, range.start ≤ range.stop) :
    old.Lost new (old.lostRanges new) (old.names.without new.names) where
  mem_ranges _ := mem_lostRanges_iff nonempty
  mem_names name := by
    rw [mem_namesWithout]
    simp [coversName, NameSet.contains]
  orderedRanges :=
    ((Sorted.pairwise_sortDistinct ReservedRange.before_isStrictOrder _).filter _).filter _
  orderedNames := old.names.ordered.filter _

/-- Nothing is listed exactly if every number and every name stays reserved. -/
theorem Lost.listing_eq_nil_iff {ranges : List ReservedRange} {names : List String}
    (lost : old.Lost new ranges names) :
    listing ranges names = [] ↔
      (∀ n, old.coversNumber n = true → new.coversNumber n = true) ∧
      ∀ name, old.coversName name = true → new.coversName name = true := by
  rw [listing, List.append_eq_nil_iff, List.map_eq_nil_iff, List.map_eq_nil_iff,
    List.eq_nil_iff_forall_not_mem, List.eq_nil_iff_forall_not_mem]
  refine and_congr ?_ ?_
  · constructor
    · intro none n reserved
      obtain ⟨range, listed, inside⟩ := coversNumber_iff.mp reserved
      by_contra free
      exact none range ((lost.mem_ranges range).mpr
        ⟨listed, n, inside, Bool.eq_false_of_not_eq_true free⟩)
    · intro kept range member
      obtain ⟨listed, n, inside, free⟩ := (lost.mem_ranges range).mp member
      exact absurd (kept n (coversNumber_iff.mpr ⟨range, listed, inside⟩)) (by rw [free]; decide)
  · refine forall_congr' fun name => ?_
    rw [lost.mem_names]
    simp

end Reservations

namespace Rule

variable {now old new : Reservations}

theorem dropped_changes :
    dropped now (old.changes new) =
      Reservations.listing ((old.rangesWithout new).filter fun range => !now.coversRange range)
        (old.names.without new.names) := by
  rw [Reservations.changes]
  -- where the diff lists no change there is nothing to lose, so the two sides agree in each case
  split
  case isTrue ranges =>
    rw [Reservations.rangesWithout_eq_nil ranges]
    split
    case isTrue names => rw [Reservations.namesWithout_eq_nil names]; rfl
    case isFalse => simp [dropped, Reservations.listing]
  case isFalse =>
    split
    case isTrue names =>
      simp [dropped, Reservations.listing, Reservations.namesWithout_eq_nil names]
    case isFalse => simp [dropped, Reservations.listing]

/-- A change of the syntax drops nothing. -/
theorem dropped_messageChanges (old new : MessageType) :
    dropped new.reserved (old.changes new) =
      Reservations.listing (old.reserved.lostRanges new.reserved)
        (old.reserved.names.without new.reserved.names) := by
  rw [MessageType.changes]
  split
  · exact dropped_changes
  · exact dropped_changes

/-- Neither does a zero value that comes or goes. -/
theorem dropped_enumChanges (old new : EnumType) :
    dropped new.reserved (old.changes new) =
      Reservations.listing (old.reserved.lostRanges new.reserved)
        (old.reserved.names.without new.reserved.names) := by
  rw [EnumType.changes]
  split
  · split
    · exact dropped_changes
    · exact dropped_changes
  · split
    · exact dropped_changes
    · exact dropped_changes

end Rule

/-- No range of a built snapshot is empty. -/
theorem Snapshot.Valid.start_le_stop {s : Snapshot} {t : TypeDef} (valid : s.Valid)
    (member : t ∈ s.types) : ∀ range ∈ t.reserved.ranges, range.start ≤ range.stop := by
  intro range listed
  cases t with
  | message m =>
      have bounds := (valid.messages m member).ranges range listed
      simp only [tagRangeValid, Bool.and_eq_true, decide_eq_true_eq] at bounds
      exact bounds.1.1
  | enum e =>
      have bounds := (valid.enums e member).ranges range listed
      simp only [valueRangeValid, Bool.and_eq_true, decide_eq_true_eq] at bounds
      exact bounds.1.1

namespace TypeDef

/-- What a finding lists of the reservations that a type gives up. -/
def dropped (old new : TypeDef) : List String :=
  Reservations.listing (old.reserved.lostRanges new.reserved)
    (old.reserved.names.without new.reserved.names)

/-- Whether some number or some name that a type sets aside is not set aside any more. -/
def GivesUp (old new : TypeDef) : Prop :=
  (∃ n, old.Reserves n ∧ ¬ new.Reserves n) ∨
    ∃ name, old.ReservesName name ∧ ¬ new.ReservesName name

variable {base candidate : Snapshot} {old new : TypeDef} (before : old ∈ base.types)
  (after : new ∈ candidate.types) (same : old.name = new.name) (kind : old.kind = new.kind)

theorem dropped_ne_nil_iff (validBase : base.Valid) (before : old ∈ base.types) :
    old.dropped new ≠ [] ↔ old.GivesUp new := by
  have lost : old.reserved.Lost new.reserved _ _ :=
    Reservations.lost_of_nonempty (validBase.start_le_stop before)
  rw [dropped, Ne, lost.listing_eq_nil_iff, not_and_or]
  simp only [not_forall, exists_prop]
  rfl

include before after same kind

/-- A type that gives up reservations changes, and the rule has a report about it. -/
theorem exists_modified (gives : old.dropped new ≠ []) :
    ∃ event, Happens base candidate old.name event ∧ event.site = ⟨true, false⟩ ∧
      event.path = new.name ∧
      Rule.reservationDropped event =
        Rule.reservationDropped.report new.name (old.dropped new) := by
  cases old with
  | message old =>
      cases new with
      | enum new => cases kind
      | message new =>
          have listed := Rule.dropped_messageChanges old new
          refine ⟨_, .message before after same (.inl ?_), rfl, rfl, ?_⟩
          · intro unchanged
            rw [unchanged] at listed
            exact gives listed.symm
          · rw [Rule.reservationDropped, listed]
            rfl
  | enum old =>
      cases new with
      | message new => cases kind
      | enum new =>
          have listed := Rule.dropped_enumChanges old new
          refine ⟨_, .enum before after same (.inl ?_), rfl, rfl, ?_⟩
          · intro unchanged
            rw [unchanged] at listed
            exact gives listed.symm
          · rw [Rule.reservationDropped, listed]
            rfl

/-- Whatever else happens at the path of the type, the rule reports nothing but that. -/
theorem reservationDropped_cases (validBase : base.Valid) (validCandidate : candidate.Valid)
    {name : String} {event : ChangeEvent} (happens : Happens base candidate name event)
    (here : event.path = new.name) :
    Rule.reservationDropped event = none ∨
      name = new.name ∧
        Rule.reservationDropped event =
          Rule.reservationDropped.report new.name (old.dropped new) := by
  cases happens with
  | typeAdded => exact .inl rfl
  | typeRemoved => exact .inl rfl
  | field _ _ _ happens => cases happens <;> exact .inl rfl
  | value _ _ _ happens => cases happens <;> exact .inl rfl
  | @message first second beforeFirst afterSecond named =>
      obtain rfl := validCandidate.eq_of_name afterSecond after here
      obtain rfl := validBase.eq_of_name beforeFirst before (named.trans same.symm)
      refine .inr ⟨named, ?_⟩
      rw [Rule.reservationDropped, Rule.dropped_messageChanges]
      rfl
  | @enum first second beforeFirst afterSecond named =>
      obtain rfl := validCandidate.eq_of_name afterSecond after here
      obtain rfl := validBase.eq_of_name beforeFirst before (named.trans same.symm)
      refine .inr ⟨named, ?_⟩
      rw [Rule.reservationDropped, Rule.dropped_enumChanges]
      rfl

end TypeDef

/-- What a report owes to the reservations that a type gives up: one finding if there are any, and
    in it the ranges and names that are lost. -/
structure Report.ListsDropped (report : Report) (old new : TypeDef) : Prop where
  reported : old.GivesUp new → report.occurrences .reservationDropped new.name = 1
  silent : ¬ old.GivesUp new → report.occurrences .reservationDropped new.name = 0
  listed : ∃ ranges names, old.reserved.Lost new.reserved ranges names ∧
    ∀ f ∈ report.findings, f.key = (.reservationDropped, new.name) →
      f.typeName = new.name ∧
      f.oldValue = some (String.intercalate ", " (Reservations.listing ranges names)) ∧
      f.message = s!"reservations dropped from {new.name}: " ++
        String.intercalate ", " (Reservations.listing ranges names)

namespace Registry

variable {r : Registry} {base candidate : Snapshot} (distinct : r.rules.Nodup)
  (validBase : base.Valid) (validCandidate : candidate.Valid) {old new : TypeDef}
  (before : old ∈ base.types) (after : new ∈ candidate.types) (same : old.name = new.name)
  (kind : old.kind = new.kind) (generatedAt : Timestamp)

include distinct validBase validCandidate before after same kind

theorem occurrences_dropped (enabled : .reservationDropped ∈ r.rules) (gives : old.GivesUp new) :
    (r.check base candidate generatedAt).occurrences .reservationDropped new.name = 1 := by
  have listed := (TypeDef.dropped_ne_nil_iff validBase before).mpr gives
  obtain ⟨event, happens, site, path, report⟩ :=
    TypeDef.exists_modified before after same kind listed
  have looks : RuleId.reservationDropped.site = event.site := site.symm
  rw [← path, occurrences_of_happens distinct validBase validCandidate happens looks enabled]
  refine if_pos ?_
  rw [RuleId.outcome?, RuleId.check, report, Rule.reservationDropped.report]
  simp [listed]

theorem occurrences_kept (keeps : ¬ old.GivesUp new) :
    (r.check base candidate generatedAt).occurrences .reservationDropped new.name = 0 := by
  have none : old.dropped new = [] := by
    by_contra listed
    exact keeps ((TypeDef.dropped_ne_nil_iff validBase before).mp listed)
  refine occurrences_eq_zero distinct validBase validCandidate ?_ generatedAt
  intro name event happens here
  rcases TypeDef.reservationDropped_cases before after same kind validBase validCandidate happens
    here with quiet | ⟨-, report⟩
  · rw [RuleId.outcome?, RuleId.check, quiet]
    rfl
  · rw [RuleId.outcome?, RuleId.check, report, none]
    rfl

/-- The finding about a type lists what was dropped from it. -/
theorem listing_of_mem_findings {f : Finding}
    (reported : f ∈ (r.check base candidate generatedAt).findings)
    (key : f.key = (.reservationDropped, new.name)) :
    f.typeName = new.name ∧
      f.oldValue = some (String.intercalate ", " (old.dropped new)) ∧
      f.message = s!"reservations dropped from {new.name}: " ++
        String.intercalate ", " (old.dropped new) := by
  obtain ⟨rule, path⟩ := Prod.mk.inj key
  obtain ⟨event, raw, happens, here, found, remark⟩ :=
    exists_findingOf_of_mem_findings distinct validBase validCandidate reported
  rw [rule, findingOf, RuleId.check] at found
  rcases TypeDef.reservationDropped_cases before after same kind validBase validCandidate happens
    (here.trans path) with quiet | ⟨named, report⟩
  · rw [quiet] at found
    cases found
  · rw [report, Rule.reservationDropped.report] at found
    by_cases none : old.dropped new = []
    · simp [none] at found
    · simp only [List.isEmpty_iff, none, ↓reduceIte, Option.map_some, Option.some.injEq] at found
      obtain ⟨-, -, -, message, oldValue, -⟩ := Finding.remark_eq_iff.mp remark
      rw [message, oldValue, ← found]
      exact ⟨named, rfl, rfl⟩

end Registry

/-- The rule about reservations reports a type exactly if some number or name that the type set
    aside is free now, however its ranges were rewritten, and lists the ranges with such a number
    and then the names. -/
theorem dropped_reservations_are_listed {base candidate : Snapshot} {settings : Settings}
    {r : Registry} (builtBase : base.IsBuilt) (builtCandidate : candidate.IsBuilt)
    (ok : Registry.ofSettings settings = .ok r) (enabled : .reservationDropped ∈ r.rules)
    {old new : TypeDef} (before : old ∈ base.types) (after : new ∈ candidate.types)
    (same : old.name = new.name) (kind : old.kind = new.kind) (generatedAt : Timestamp) :
    (r.check base candidate generatedAt).ListsDropped old new := by
  have distinct := Registry.nodup_rules ok
  exact
    { reported := Registry.occurrences_dropped distinct builtBase.valid builtCandidate.valid before
        after same kind generatedAt enabled
      silent := Registry.occurrences_kept distinct builtBase.valid builtCandidate.valid before after
        same kind generatedAt
      listed := ⟨_, _, Reservations.lost_of_nonempty (builtBase.valid.start_le_stop before),
        fun _ => Registry.listing_of_mem_findings distinct builtBase.valid builtCandidate.valid
          before after same kind generatedAt⟩ }

/-- A user with nothing but reservations. -/
def userReserving (label : String) (ranges : List ReservedRange) (names : List String) :
    Snapshot where
  label
  version := none
  types := [.message ⟨"acme.User", .proto3, [], ⟨ranges, .ofList names⟩⟩]

/-- Ranges that are merged, or split and widened, drop nothing; a gap between two parts of a range
    does. -/
theorem only_gaps_are_dropped :
    ∃ r, Registry.ofSettings {} = .ok r ∧
      ((r.check (userReserving "before" [⟨2, 2⟩, ⟨3, 3⟩, ⟨10, 20⟩] ["email"])
        (userReserving "merged" [⟨15, 25⟩, ⟨10, 14⟩, ⟨2, 3⟩] ["email"]) .epoch).occurrences
          .reservationDropped "acme.User" = 0) ∧
      ((r.check (userReserving "before" [⟨2, 2⟩, ⟨3, 3⟩, ⟨10, 20⟩] ["email"])
        (userReserving "torn" [⟨16, 25⟩, ⟨10, 14⟩, ⟨2, 3⟩] ["email"]) .epoch).occurrences
          .reservationDropped "acme.User" = 1) := by
  have built (label : String) (ranges : List ReservedRange)
      (ok : (Draft.build ⟨label, none, (userReserving label ranges ["email"]).types⟩) =
        .ok (userReserving label ranges ["email"])) :
      (userReserving label ranges ["email"]).IsBuilt := ⟨_, ok⟩
  have builtBase := built "before" [⟨2, 2⟩, ⟨3, 3⟩, ⟨10, 20⟩] (by decide +kernel)
  have builtMerged := built "merged" [⟨15, 25⟩, ⟨10, 14⟩, ⟨2, 3⟩] (by decide +kernel)
  have builtTorn := built "torn" [⟨16, 25⟩, ⟨10, 14⟩, ⟨2, 3⟩] (by decide +kernel)
  refine ⟨.default, Registry.ofSettings_default, ?_, ?_⟩
  · refine (dropped_reservations_are_listed builtBase builtMerged Registry.ofSettings_default
      (by decide) (List.mem_singleton.mpr rfl) (List.mem_singleton.mpr rfl) rfl rfl
      .epoch).silent ?_
    rintro (⟨n, reserved, free⟩ | ⟨name, reserved, free⟩)
    · simp [TypeDef.Reserves, TypeDef.reserved, Reservations.coversNumber,
        ReservedRange.contains] at reserved free
      omega
    · exact free reserved
  · refine (dropped_reservations_are_listed builtBase builtTorn Registry.ofSettings_default
      (by decide) (List.mem_singleton.mpr rfl) (List.mem_singleton.mpr rfl) rfl rfl
      .epoch).reported ?_
    exact .inl ⟨15, by decide, by decide⟩

end SchemaEvolution
