import SchemaEvolution.Proofs.Check.Findings
import SchemaEvolution.Proofs.Schema.Coverage
import SchemaEvolution.Proofs.Wire.Comparison

/-! # Numbers over a history

A run sees two revisions only.  `TypeDef.Carries` is what one run with nothing to say about
numbers guarantees of a type (`CleanStep.exists_carries`); it composes, for in a built snapshot a
number is never live and reserved at once, and so it holds over a whole history of releases
(`CleanHistory.exists_carries`).
-/

namespace SchemaEvolution

namespace TypeDef

/-- Whether some member of the type has a number. -/
def Live : TypeDef → Int → Prop
  | .message m, n => ∃ f ∈ m.fields, (f.number : Int) = n
  | .enum e, n => ∃ v ∈ e.values, v.number = n

/-- Whether the type sets a number aside. -/
def Reserves (t : TypeDef) (n : Int) : Prop := t.reserved.coversNumber n = true

/-- Whether a number means the same in two revisions: fields under it share their wire type, enum
    values under it their name. -/
def AgreesAt : TypeDef → TypeDef → Int → Prop
  | .message old, .message new, n => ∀ f ∈ old.fields, ∀ g ∈ new.fields,
      (f.number : Int) = n → (g.number : Int) = n → f.type.wireType = g.type.wireType
  | .enum old, .enum new, n => ∀ v ∈ old.values, ∀ w ∈ new.values,
      v.number = n → w.number = n → v.name = w.name
  | _, _, _ => False

/-- No number of the old type comes to mean something else in the new one. -/
structure Carries (old new : TypeDef) : Prop where
  kind : old.kind = new.kind
  live : ∀ n, old.Live n → new.Live n ∨ new.Reserves n
  reserved : ∀ n, old.Reserves n → new.Reserves n
  agrees : ∀ n, old.Live n → new.Live n → old.AgreesAt new n

theorem AgreesAt.trans {a b c : TypeDef} {n : Int} (first : a.AgreesAt b n)
    (second : b.AgreesAt c n) (live : b.Live n) : a.AgreesAt c n := by
  cases b with
  | message between =>
      obtain ⟨g, member, number⟩ := live
      cases a with
      | enum => cases first
      | message old =>
          cases c with
          | enum => cases second
          | message new =>
              intro f before h after numberF numberH
              exact (first f before g member numberF number).trans
                (second g member h after number numberH)
  | enum between =>
      obtain ⟨w, member, number⟩ := live
      cases a with
      | message => cases first
      | enum old =>
          cases c with
          | message => cases second
          | enum new =>
              intro v before x after numberV numberX
              exact (first v before w member numberV number).trans
                (second w member x after number numberX)

/-- What is live at both ends was live in between, for the last revision does not reserve it. -/
theorem Carries.live_between {b c : TypeDef} (second : b.Carries c) {n : Int}
    (occupied : b.Live n ∨ b.Reserves n) (free : ¬ c.Reserves n) : b.Live n := by
  rcases occupied with live | reserved
  · exact live
  · exact absurd (second.reserved n reserved) free

theorem Carries.trans {a b c : TypeDef} (first : a.Carries b) (second : b.Carries c)
    (exclusive : ∀ n, c.Live n → ¬ c.Reserves n) : a.Carries c where
  kind := first.kind.trans second.kind
  live n before := by
    rcases first.live n before with live | reserved
    · exact second.live n live
    · exact .inr (second.reserved n reserved)
  reserved n before := second.reserved n (first.reserved n before)
  agrees n before after := by
    have between := second.live_between (first.live n before) (exclusive n after)
    exact (first.agrees n before between).trans (second.agrees n between after) between

end TypeDef

namespace Snapshot.Valid

variable {s : Snapshot} {t : TypeDef}

theorem not_reserves_of_live (valid : s.Valid) (member : t ∈ s.types) {n : Int} (live : t.Live n) :
    ¬ t.Reserves n := by
  cases t with
  | message m =>
      obtain ⟨f, inside, rfl⟩ := live
      have free := (valid.messages m member).sound.numberFree f inside
      intro reserved
      exact absurd (free.symm.trans reserved) (by decide)
  | enum e =>
      obtain ⟨v, inside, rfl⟩ := live
      have free := (valid.enums e member).sound.numberFree v inside
      intro reserved
      exact absurd (free.symm.trans reserved) (by decide)

theorem carries_refl (valid : s.Valid) (member : t ∈ s.types) : t.Carries t where
  kind := rfl
  live _ live := .inl live
  reserved _ reserved := reserved
  agrees n _ _ := by
    cases t with
    | message m =>
        intro f inF g inG numberF numberG
        rw [(valid.messages m member).sound.eq_of_number inF inG (numberF.trans numberG.symm)]
    | enum e =>
        intro v inV w inW numberV numberW
        rw [(valid.enums e member).sound.eq_of_number inV inW (numberV.trans numberW.symm)]

end Snapshot.Valid

/-- The rules that keep a number with its meaning. -/
def RuleId.numberRules : List RuleId :=
  [.tagReuse, .enumValueReuse, .unreservedRemoval, .reservationDropped, .typeRemoved, .typeChange]

/-- A run of all rules that has nothing to say about numbers. -/
def CleanStep (base candidate : Snapshot) : Prop :=
  ∃ settings r generatedAt, Registry.ofSettings settings = .ok r ∧ r.rules = RuleId.all ∧
    ∀ f ∈ (r.check base candidate generatedAt).findings, f.rule ∉ RuleId.numberRules

/-- No rule about numbers fires on anything that happens. -/
def Silent (ctx : RuleContext) : Prop :=
  ∀ id ∈ RuleId.numberRules, ∀ name event, Happens ctx.base ctx.candidate name event →
    id.outcome? ctx event = none

theorem CleanStep.exists_silent {base candidate : Snapshot} (clean : CleanStep base candidate)
    (validBase : base.Valid) (validCandidate : candidate.Valid) :
    ∃ settings, Silent ⟨base, candidate, settings⟩ := by
  obtain ⟨settings, r, generatedAt, ok, all, quiet⟩ := clean
  refine ⟨r.settings, ?_⟩
  intro id guards name event happens
  by_contra fires
  have reported := (Registry.exists_mem_findings_iff (Registry.nodup_rules ok) validBase
    validCandidate generatedAt).mpr
    ⟨by rw [all]; cases id <;> decide, name, event, happens, Option.isSome_iff_ne_none.mpr fires⟩
  obtain ⟨f, member, rfl⟩ := reported
  exact quiet f member guards

/-- A reserved number stays reserved if no range is reported as dropped, in whatever way the ranges
    were merged, split or widened. -/
theorem Rule.coversNumber_of_quiet {old new : Reservations} (changes : List Change)
    (listed : ∀ change ∈ old.changes new, change ∈ changes)
    (quiet : changes ≠ [] → Rule.dropped new changes = []) {n : Int}
    (reserved : old.coversNumber n = true) : new.coversNumber n = true := by
  obtain ⟨range, member, inside⟩ := Reservations.coversNumber_iff.mp reserved
  by_cases kept : range ∈ new.ranges
  · exact Reservations.coversNumber_iff.mpr ⟨range, kept, inside⟩
  have unlike : old.rangeSet ≠ new.rangeSet := by
    intro same
    exact kept ((Reservations.rangeSet_eq_iff.mp same range).mp member)
  have lost : range ∈ old.rangesWithout new := by
    simp [Reservations.rangesWithout, Reservations.mem_rangeSet, member, kept]
  have change := listed (.reservedNumbers (new.rangesWithout old) (old.rangesWithout new))
    (by simp [Reservations.changes, unlike])
  have nothing := quiet (List.ne_nil_of_mem change)
  simp only [Rule.dropped, List.append_eq_nil_iff, List.map_eq_nil_iff,
    List.flatMap_eq_nil_iff] at nothing
  have covered := List.filter_eq_nil_iff.mp (nothing.1 _ change) range lost
  have bounds := ReservedRange.contains_iff.mp inside
  exact (Reservations.coversRange_iff (by omega)).mp (by simpa using covered) n inside

/-- Fields whose types no rule objects to share their wire type. -/
theorem Field.wireType_eq_of_silent {ctx : RuleContext} {f g : Field}
    (same : f.rebinds g = false) (quiet : f.typeOutcome? ctx g = none) :
    f.type.wireType = g.type.wireType := by
  by_cases types : f.type = g.type
  · rw [types]
  simp only [typeOutcome?, types, same, decide_false, Bool.or_self, Bool.false_eq_true,
    ↓reduceIte] at quiet
  cases compares : f.type.compare g.type with
  | error fault =>
      rw [compares] at quiet
      cases quiet
  | ok comparison =>
      refine FieldType.wireType_eq_of_compare compares ?_
      rintro rfl
      rw [compares] at quiet
      cases quiet

namespace Silent

variable {ctx : RuleContext}

theorem kind_survives (silent : Silent ctx) {t : TypeDef} (before : t ∈ ctx.base.types) :
    ∃ u ∈ ctx.candidate.types, u.name = t.name ∧ u.kind = t.kind := by
  by_contra gone
  simp only [not_exists, not_and] at gone
  have quiet := silent .typeRemoved (by decide) _ _ (.typeRemoved before gone)
  cases t <;> simp [Entity.ofType] at quiet

section Messages

variable {old new : MessageType} (silent : Silent ctx) (before : .message old ∈ ctx.base.types)
  (after : .message new ∈ ctx.candidate.types) (same : old.name = new.name)
include silent before after same

theorem message_reserved {n : Int} (reserved : old.reserved.coversNumber n = true) :
    new.reserved.coversNumber n = true := by
  refine Rule.coversNumber_of_quiet (old.changes new) ?_ ?_ reserved
  · intro change member
    exact List.mem_append_right _ member
  · intro changed
    have quiet := silent .reservationDropped (by decide) _ _
      (.message before after same (.inl changed))
    simpa using quiet

theorem field_live {f : Field} (live : f ∈ old.fields) :
    (∃ g ∈ new.fields, g.number = f.number) ∨ new.reserved.coversNumber f.number = true := by
  by_cases kept : ∃ g ∈ new.fields, g.number = f.number
  · exact .inl kept
  · simp only [not_exists, not_and] at kept
    have quiet := silent .unreservedRemoval (by decide) _ _
      (.field before after same (.removed live kept))
    refine .inr ?_
    simpa [ReservationStatus.of] using quiet

theorem field_agrees {f g : Field} (liveOld : f ∈ old.fields) (liveNew : g ∈ new.fields)
    (number : f.number = g.number) : f.type.wireType = g.type.wireType := by
  by_cases types : f.type = g.type
  · rw [types]
  have changed : f.changes old.reserved g ≠ [] := by simp [Field.changes, types]
  have happens := Happens.field before after same (.modified liveOld liveNew number changed)
  have reuse := silent .tagReuse (by decide) _ _ happens
  have type := silent .typeChange (by decide) _ _ happens
  exact Field.wireType_eq_of_silent (by simpa using reuse) (by simpa using type)

theorem message_carries : TypeDef.Carries (.message old) (.message new) where
  kind := rfl
  live n := by
    rintro ⟨f, live, rfl⟩
    rcases silent.field_live before after same live with ⟨g, member, number⟩ | reserved
    · exact .inl ⟨g, member, congrArg Int.ofNat number⟩
    · exact .inr reserved
  reserved n := silent.message_reserved before after same
  agrees n _ _ := by
    intro f liveOld g liveNew numberF numberG
    exact silent.field_agrees before after same liveOld liveNew
      (Int.ofNat_inj.mp (numberF.trans numberG.symm))

end Messages

section Enums

variable {old new : EnumType} (silent : Silent ctx) (before : .enum old ∈ ctx.base.types)
  (after : .enum new ∈ ctx.candidate.types) (same : old.name = new.name)
include silent before after same

theorem enum_reserved {n : Int} (reserved : old.reserved.coversNumber n = true) :
    new.reserved.coversNumber n = true := by
  refine Rule.coversNumber_of_quiet (old.changes new) ?_ ?_ reserved
  · intro change member
    exact List.mem_append_right _ member
  · intro changed
    have quiet := silent .reservationDropped (by decide) _ _
      (.enum before after same (.inl changed))
    simpa using quiet

theorem value_live {v : EnumValue} (live : v ∈ old.values) :
    (∃ w ∈ new.values, w.number = v.number) ∨ new.reserved.coversNumber v.number = true := by
  by_cases kept : ∃ w ∈ new.values, w.number = v.number
  · exact .inl kept
  · simp only [not_exists, not_and] at kept
    have quiet := silent .unreservedRemoval (by decide) _ _
      (.value before after same (.removed live kept))
    refine .inr ?_
    simpa [ReservationStatus.of] using quiet

theorem value_agrees {v w : EnumValue} (liveOld : v ∈ old.values) (liveNew : w ∈ new.values)
    (number : v.number = w.number) : v.name = w.name := by
  by_contra names
  have changed : v.changes old.reserved w ≠ [] := by simp [EnumValue.changes, names]
  have happens := Happens.value before after same (.modified liveOld liveNew number changed)
  have reuse := silent .enumValueReuse (by decide) _ _ happens
  simp [names] at reuse

theorem enum_carries : TypeDef.Carries (.enum old) (.enum new) where
  kind := rfl
  live n := by
    rintro ⟨v, live, rfl⟩
    exact silent.value_live before after same live
  reserved n := silent.enum_reserved before after same
  agrees n _ _ := by
    intro v liveOld w liveNew numberV numberW
    exact silent.value_agrees before after same liveOld liveNew (numberV.trans numberW.symm)

end Enums

theorem exists_carries (silent : Silent ctx) {t : TypeDef} (before : t ∈ ctx.base.types) :
    ∃ u ∈ ctx.candidate.types, u.name = t.name ∧ t.Carries u := by
  obtain ⟨u, after, same, kinds⟩ := silent.kind_survives before
  refine ⟨u, after, same, ?_⟩
  cases t with
  | message old =>
      cases u with
      | message new => exact silent.message_carries before after same.symm
      | enum new => cases kinds
  | enum old =>
      cases u with
      | message new => cases kinds
      | enum new => exact silent.enum_carries before after same.symm

end Silent

/-- One clean run carries every type over. -/
theorem CleanStep.exists_carries {base candidate : Snapshot} (clean : CleanStep base candidate)
    (validBase : base.Valid) (validCandidate : candidate.Valid) {t : TypeDef}
    (before : t ∈ base.types) :
    ∃ u ∈ candidate.types, u.name = t.name ∧ t.Carries u := by
  obtain ⟨settings, silent⟩ := clean.exists_silent validBase validCandidate
  exact silent.exists_carries before

/-- Releases `v 0` to `v n` of which each was checked against the one before and found clean. -/
structure CleanHistory (v : Nat → Snapshot) (n : Nat) : Prop where
  built : ∀ i ≤ n, (v i).IsBuilt
  clean : ∀ i < n, CleanStep (v i) (v (i + 1))

/-- A clean history carries every type from each release to each later one. -/
theorem CleanHistory.exists_carries {v : Nat → Snapshot} {n : Nat} (history : CleanHistory v n)
    {i j : Nat} (earlier : i ≤ j) (last : j ≤ n) {t : TypeDef} (before : t ∈ (v i).types) :
    ∃ u ∈ (v j).types, u.name = t.name ∧ t.Carries u := by
  induction j, earlier using Nat.le_induction with
  | base => exact ⟨t, before, rfl, (history.built i last).valid.carries_refl before⟩
  | succ j _ ih =>
      obtain ⟨u, between, named, first⟩ := ih (by omega)
      have validBetween := (history.built j (by omega)).valid
      have validAfter := (history.built (j + 1) last).valid
      obtain ⟨w, after, namedW, second⟩ :=
        (history.clean j (by omega)).exists_carries validBetween validAfter between
      exact ⟨w, after, namedW.trans named,
        first.trans second fun n => validAfter.not_reserves_of_live after⟩

theorem CleanHistory.carries_of_get? {v : Nat → Snapshot} {n : Nat} (history : CleanHistory v n)
    {i j : Nat} (earlier : i ≤ j) (last : j ≤ n) {name : String} {t u : TypeDef}
    (atI : (v i).get? name = some t) (atJ : (v j).get? name = some u) : t.Carries u := by
  obtain ⟨before, named⟩ := Snapshot.mem_of_get? atI
  obtain ⟨w, after, same, carries⟩ := history.exists_carries earlier last before
  have found := (history.built j last).valid.get?_of_mem after (same.trans named)
  rw [atJ, Option.some.injEq] at found
  rw [found]
  exact carries

/-- Over a clean history a type keeps its kind, a number that it uses or reserves stays used or
    reserved, a reserved number is never used again, and a number in use at both ends was in use
    all along and means the same at both. -/
theorem clean_history_keeps_numbers {v : Nat → Snapshot} {n : Nat} (history : CleanHistory v n)
    {t : TypeDef} (origin : t ∈ (v 0).types) :
    (∀ i ≤ n, ∃ u, (v i).get? t.name = some u ∧ u.kind = t.kind) ∧
    (∀ i j, i ≤ j → j ≤ n → ∀ u w, (v i).get? t.name = some u → (v j).get? t.name = some w →
      ∀ k, (u.Live k ∨ u.Reserves k → w.Live k ∨ w.Reserves k) ∧ (u.Reserves k → ¬ w.Live k)) ∧
    ∀ w, (v n).get? t.name = some w → ∀ k, t.Live k → w.Live k →
      (∀ i ≤ n, ∀ u, (v i).get? t.name = some u → u.Live k) ∧ t.AgreesAt w k := by
  have atOrigin := (history.built 0 n.zero_le).valid.get?_of_mem origin rfl
  have exclusive (j : Nat) (last : j ≤ n) (w : TypeDef) (atJ : (v j).get? t.name = some w) (k : Int)
      (live : w.Live k) : ¬ w.Reserves k :=
    (history.built j last).valid.not_reserves_of_live (Snapshot.mem_of_get? atJ).1 live
  refine ⟨?_, ?_, ?_⟩
  · intro i last
    obtain ⟨u, after, named, carries⟩ := history.exists_carries i.zero_le last origin
    exact ⟨u, (history.built i last).valid.get?_of_mem after named, carries.kind.symm⟩
  · intro i j earlier last u w atI atJ k
    have carries := history.carries_of_get? earlier last atI atJ
    constructor
    · rintro (live | reserved)
      · exact carries.live k live
      · exact .inr (carries.reserved k reserved)
    · intro reserved live
      exact exclusive j last w atJ k live (carries.reserved k reserved)
  · intro w atN k before after
    constructor
    · intro i last u atI
      have first := history.carries_of_get? i.zero_le last atOrigin atI
      have second := history.carries_of_get? last le_rfl atI atN
      exact second.live_between (first.live k before) (exclusive n le_rfl w atN k after)
    · exact (history.carries_of_get? n.zero_le le_rfl atOrigin atN).agrees k before after

/-- A message whose identifier is widened and whose note is retired, with the ranges that it
    reserves. -/
def jobRelease (label : String) (id : Scalar) (note : List Field) (ranges : List ReservedRange) :
    Snapshot where
  label
  version := none
  types := [.message ⟨"acme.Job", .proto3,
    ⟨1, "id", .scalar id, .singular, false, none⟩ :: note, ⟨ranges, .empty⟩⟩]

/-- Three releases: the note is retired, then the reserved ranges are merged. -/
def jobReleases : Nat → Snapshot
  | 0 => jobRelease "first" .int32 [⟨2, "note", .scalar .string, .singular, false, none⟩] [⟨4, 5⟩]
  | 1 => jobRelease "second" .int64 [] [⟨2, 2⟩, ⟨4, 5⟩, ⟨6, 7⟩]
  | _ => jobRelease "third" .int64 [] [⟨2, 2⟩, ⟨4, 9⟩]

theorem job_history_keeps_numbers :
    CleanHistory jobReleases 2 ∧
      (∀ i ≤ 2, ∀ u, (jobReleases i).get? "acme.Job" = some u → u.Live 1) ∧
      ∀ u, (jobReleases 2).get? "acme.Job" = some u → ¬ u.Live 4 := by
  have history : CleanHistory jobReleases 2 := by
    constructor
    · intro i last
      refine ⟨⟨(jobReleases i).label, none, (jobReleases i).types⟩, ?_⟩
      interval_cases i <;> decide +kernel
    · intro i last
      refine ⟨{}, .default, .epoch, Registry.ofSettings_default, rfl, ?_⟩
      interval_cases i <;> decide +kernel
  have origin : (jobReleases 0).types.head (by decide) ∈ (jobReleases 0).types :=
    List.head_mem _
  obtain ⟨-, between, ends⟩ := clean_history_keeps_numbers history origin
  refine ⟨history, (ends _ rfl 1 ?_ ?_).1, ?_⟩
  · exact ⟨_, List.mem_cons_self, rfl⟩
  · exact ⟨_, List.mem_cons_self, rfl⟩
  · intro u found
    exact (between 0 2 (by decide) le_rfl _ u rfl found 4).2 rfl

end SchemaEvolution
