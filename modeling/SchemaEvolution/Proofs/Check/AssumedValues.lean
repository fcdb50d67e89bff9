import SchemaEvolution.Proofs.Check.Occurrence
import SchemaEvolution.Proofs.Check.Verdict

/-! # What readers assume of a field that is not set

`Field.assumed` is the value that a reader takes for granted, read in the snapshot of its own side.
The rule about defaults compares these values, but it does not look at a field whose explicit
default stays as it was, so an enum that gets another first value goes unnoticed wherever fields
leave the default to it (`Field.DefersToEnum`).  Main statement:
`default_is_judged_unless_left_to_enum`.
-/

namespace SchemaEvolution

/-- The value that a reader assumes. -/
inductive AssumedValue
  | nothing
  | number (n : Int)
  | text (s : String)
deriving Repr, DecidableEq

namespace Scalar

/-- Whether the values of the type are whole numbers. -/
def isWhole : Scalar → Bool
  | float | double | bool | string | bytes => false
  | _ => true

/-- Whether the values of the type are floating-point numbers. -/
def isFloating : Scalar → Bool
  | float | double => true
  | _ => false

end Scalar

namespace FieldType

def isWhole : FieldType → Bool
  | scalar kind => kind.isWhole
  | _ => false

def isFloating : FieldType → Bool
  | scalar kind => kind.isFloating
  | _ => false

/-- The value that a text stands for: of a type of whole numbers the number that it spells, if it
    spells any. -/
def valueOf (type : FieldType) (text : String) : AssumedValue :=
  match type.isWhole, Digits.integer? text.toList with
  | true, some n => .number n
  | _, _ => .text text

/-- The value that is assumed where nobody says otherwise: the zero of the type, and of an enum the
    value that is declared first in the snapshot. -/
def implied (s : Snapshot) : FieldType → AssumedValue
  | scalar .bool => .text "false"
  | scalar .string | scalar .bytes => .text ""
  | scalar _ => .number 0
  | enum name =>
    match (s.enum? name).bind fun e => e.values.head? with
    | some first => .text first.name
    | none => .nothing
  | message _ | group _ => .nothing

/-- Whether a text stands for a number that a word of 128 bits does not hold. -/
def Oversized (type : FieldType) (text : String) : Prop :=
  ∃ n, type.valueOf text = .number n ∧ ¬ (Digits.int128Min ≤ n ∧ n ≤ Digits.int128Max)

end FieldType

namespace Field

/-- The value that a reader assumes for the field where it is not set. -/
def assumed (s : Snapshot) (f : Field) : AssumedValue :=
  match f.default with
  | some text => f.type.valueOf text
  | none => f.type.implied s

/-- Whether both revisions of a field leave the default to the enum that they refer to. -/
def DefersToEnum (f g : Field) : Prop :=
  f.default = none ∧ g.default = none ∧ ∃ name, f.type = .enum name

/-- Whether both revisions spell out one default in two ways, as a number that no word of 128 bits
    holds. -/
def Respells (f g : Field) : Prop :=
  ∃ a b, f.default = some a ∧ g.default = some b ∧ a ≠ b ∧
    f.type.valueOf a = f.type.valueOf b ∧ f.type.Oversized a

end Field

namespace FieldType

variable {type : FieldType} {s : Snapshot} {a b : String}

theorem valueOf_ne_nothing : type.valueOf a ≠ .nothing := by
  unfold valueOf
  split <;> simp

theorem valueOf_of_not_whole (other : type.isWhole = false) : type.valueOf a = .text a := by
  rw [valueOf, other]

theorem valueOf_eq_number_iff {n : Int} :
    type.valueOf a = .number n ↔ type.isWhole = true ∧ Digits.integer? a.toList = some n := by
  unfold valueOf
  split
  case h_1 whole spells => simp [whole, spells]
  case h_2 none =>
    simp only [reduceCtorEq, false_iff, not_and]
    exact fun whole spells => none n whole spells

theorem eq_of_valueOf_eq_text {text : String} (value : type.valueOf a = .text text) : a = text := by
  unfold valueOf at value
  split at value
  case h_1 => cases value
  case h_2 => exact AssumedValue.text.inj value

theorem Oversized.of_valueOf_eq (oversized : type.Oversized a)
    (same : type.valueOf a = type.valueOf b) : type.Oversized b := by
  rwa [Oversized, ← same]

theorem sameValue_eq_of_not_whole (exact : type.isFloating = false) (other : type.isWhole = false) :
    type.sameValue a b = (a == b) := by
  cases type with
  | message | enum | group => rfl
  | scalar kind =>
      cases kind with
      | bool | string | bytes => rfl
      | float | double => exact absurd exact (by decide)
      | _ => exact absurd other (by decide)

theorem sameValue_eq_of_whole (whole : type.isWhole = true) :
    type.sameValue a b =
      match Digits.integerWithin? Digits.int128Min Digits.int128Max a.toList,
        Digits.integerWithin? Digits.int128Min Digits.int128Max b.toList with
      | some x, some y => x == y
      | _, _ => a == b := by
  cases type with
  | message | enum | group => exact absurd whole Bool.false_ne_true
  | scalar kind =>
      cases kind with
      | bool | string | bytes | float | double => exact absurd whole (by decide)
      | _ => rfl

/-- A text is read as the number that it stands for, unless it is oversized. -/
theorem integerWithin?_eq_some_iff (whole : type.isWhole = true) {n : Int} :
    Digits.integerWithin? Digits.int128Min Digits.int128Max a.toList = some n ↔
      type.valueOf a = .number n ∧ ¬ type.Oversized a := by
  rw [Digits.integerWithin?, Option.filter_eq_some_iff, Bool.and_eq_true, decide_eq_true_eq,
    decide_eq_true_eq]
  constructor
  · rintro ⟨spells, fits⟩
    have value := valueOf_eq_number_iff.mpr ⟨whole, spells⟩
    refine ⟨value, ?_⟩
    rintro ⟨m, valueM, outside⟩
    rw [value, AssumedValue.number.injEq] at valueM
    exact outside (valueM ▸ fits)
  · rintro ⟨value, fits⟩
    refine ⟨(valueOf_eq_number_iff.mp value).2, ?_⟩
    by_contra outside
    exact fits ⟨n, value, outside⟩

/-- Apart from floating-point numbers, two texts are one value exactly if they stand for the same
    value, and are spelled alike in case it is oversized. -/
theorem sameValue_iff (exact : type.isFloating = false) :
    type.sameValue a b = true ↔
      type.valueOf a = type.valueOf b ∧ (a = b ∨ ¬ type.Oversized a) := by
  cases whole : type.isWhole with
  | false =>
      rw [sameValue_eq_of_not_whole exact whole, valueOf_of_not_whole whole,
        valueOf_of_not_whole whole, AssumedValue.text.injEq, beq_iff_eq]
      exact ⟨fun alike => ⟨alike, .inl alike⟩, fun same => same.1⟩
  | true =>
      rw [sameValue_eq_of_whole whole]
      split
      case h_1 x y readA readB =>
        obtain ⟨valueA, fits⟩ := (integerWithin?_eq_some_iff whole).mp readA
        obtain ⟨valueB, -⟩ := (integerWithin?_eq_some_iff whole).mp readB
        simp [valueA, valueB, fits]
      case h_2 unread =>
        -- one of the two is no number or oversized, so only the spelling counts
        rw [beq_iff_eq]
        constructor
        · rintro rfl
          exact ⟨rfl, .inl rfl⟩
        · rintro ⟨same, alike | fits⟩
          · exact alike
          · cases value : type.valueOf a with
            | nothing => exact absurd value valueOf_ne_nothing
            | text =>
                rw [eq_of_valueOf_eq_text value, eq_of_valueOf_eq_text (same.symm.trans value)]
            | number n =>
                have fitsB : ¬ type.Oversized b := fun oversized =>
                  fits (oversized.of_valueOf_eq same.symm)
                have readA := (integerWithin?_eq_some_iff whole).mpr ⟨value, fits⟩
                have readB := (integerWithin?_eq_some_iff whole).mpr ⟨same.symm.trans value, fitsB⟩
                exact absurd readB (unread n n readA)

theorem zeroText?_of_whole (whole : type.isWhole = true) : type.zeroText? s = some "0" := by
  cases type with
  | message | enum | group => exact absurd whole Bool.false_ne_true
  | scalar kind =>
      cases kind with
      | bool | string | bytes | float | double => exact absurd whole (by decide)
      | _ => rfl

theorem implied_of_whole (whole : type.isWhole = true) : type.implied s = type.valueOf "0" := by
  rw [valueOf_eq_number_iff.mpr ⟨whole, (by decide : Digits.integer? "0".toList = some 0)⟩]
  cases type with
  | message | enum | group => exact absurd whole Bool.false_ne_true
  | scalar kind =>
      cases kind with
      | bool | string | bytes | float | double => exact absurd whole (by decide)
      | _ => rfl

/-- The text that is assumed where nobody says otherwise stands for the implied value. -/
theorem implied_eq (exact : type.isFloating = false) :
    type.implied s = (type.zeroText? s).elim .nothing type.valueOf := by
  cases whole : type.isWhole with
  | true =>
      rw [implied_of_whole whole, zeroText?_of_whole whole]
      rfl
  | false =>
      cases type with
      | message | group => rfl
      | enum name =>
          cases found : s.enum? name with
          | none => simp [implied, zeroText?, found]
          | some e =>
              cases first : e.values.head? with
              | none => simp [implied, zeroText?, found, first]
              | some v => simp [implied, zeroText?, found, first, valueOf_of_not_whole whole]
      | scalar kind =>
          cases kind with
          | bool | string | bytes => rfl
          | float | double => exact absurd exact (by decide)
          | _ => exact absurd whole (by decide)

theorem not_oversized_of_zeroText? {text : String} (zero : type.zeroText? s = some text) :
    ¬ type.Oversized text := by
  rintro ⟨n, value, outside⟩
  obtain ⟨whole, spells⟩ := valueOf_eq_number_iff.mp value
  obtain rfl := Option.some.inj ((zeroText?_of_whole whole).symm.trans zero)
  obtain rfl : 0 = n := Option.some.inj spells
  exact outside (by decide)

/-- Only of an enum does the implied value depend on the snapshot. -/
theorem implied_eq_implied {base candidate : Snapshot} (plain : ∀ name, type ≠ .enum name) :
    type.implied base = type.implied candidate := by
  cases type with
  | enum name => exact absurd rfl (plain name)
  | message | group => rfl
  | scalar kind => cases kind <;> rfl

end FieldType

namespace Field

variable {base candidate : Snapshot} {s : Snapshot} {f g : Field}

theorem assumed_eq (exact : f.type.isFloating = false) :
    f.assumed s = (f.assumedValue? s).elim .nothing f.type.valueOf := by
  unfold assumed assumedValue?
  cases f.default with
  | none => exact FieldType.implied_eq exact
  | some text => rfl

/-- An oversized text is never assumed unless somebody says so. -/
theorem default_of_oversized {text : String} (value : f.assumedValue? s = some text)
    (oversized : f.type.Oversized text) : f.default = some text := by
  unfold assumedValue? at value
  cases explicit : f.default with
  | some => rwa [explicit] at value
  | none =>
      rw [explicit] at value
      exact absurd oversized (FieldType.not_oversized_of_zeroText? value)

theorem assumed_of_default {text : String} (explicit : f.default = some text) :
    f.assumed s = f.type.valueOf text := by
  rw [assumed, explicit]

/-- Under one explicit default, or none, readers of both sides assume the same, unless they have to
    look up an enum. -/
theorem assumed_eq_of_default_eq (types : f.type = g.type) (defaults : f.default = g.default)
    (settled : ¬ f.DefersToEnum g) : f.assumed base = g.assumed candidate := by
  cases explicit : f.default with
  | some text =>
      rw [assumed_of_default explicit, assumed_of_default (defaults.symm.trans explicit), types]
  | none =>
      have implicit := defaults.symm.trans explicit
      rw [assumed, assumed, explicit, implicit, ← types]
      exact FieldType.implied_eq_implied fun name enum => settled ⟨explicit, implicit, name, enum⟩

theorem assumedValue?_of_default {text : String} (explicit : f.default = some text) :
    f.assumedValue? s = some text := by
  rw [assumedValue?, explicit]

theorem default_eq_none_of_assumedValue? (unknown : f.assumedValue? s = none) :
    f.default = none := by
  unfold assumedValue? at unknown
  split at unknown
  case h_1 => cases unknown
  case h_2 implicit => exact implicit

theorem sameAssumedValue_iff_assumed (types : f.type = g.type) (exact : f.type.isFloating = false)
    (differ : f.default ≠ g.default) :
    f.sameAssumedValue base candidate g = true ↔
      f.assumed base = g.assumed candidate ∧ ¬ f.Respells g := by
  have exactG : g.type.isFloating = false := types ▸ exact
  rw [sameAssumedValue_iff, assumed_eq exact, assumed_eq exactG, ← types]
  constructor
  · rintro ⟨a, b, readA, readB, same⟩
    obtain ⟨values, alike⟩ := (FieldType.sameValue_iff exact).mp same
    rw [readA, readB]
    refine ⟨values, ?_⟩
    rintro ⟨c, d, explicitF, explicitG, apart, -, oversized⟩
    obtain rfl := Option.some.inj (readA.symm.trans (assumedValue?_of_default explicitF))
    obtain rfl := Option.some.inj (readB.symm.trans (assumedValue?_of_default explicitG))
    rcases alike with alike | fits
    · exact apart alike
    · exact fits oversized
  · rintro ⟨same, plain⟩
    cases readA : f.assumedValue? base with
    | none =>
        cases readB : g.assumedValue? candidate with
        | none =>
            -- an explicit default would have been assumed
            exact absurd ((default_eq_none_of_assumedValue? readA).trans
              (default_eq_none_of_assumedValue? readB).symm) differ
        | some b =>
            rw [readA, readB] at same
            exact absurd same.symm FieldType.valueOf_ne_nothing
    | some a =>
        cases readB : g.assumedValue? candidate with
        | none =>
            rw [readA, readB] at same
            exact absurd same FieldType.valueOf_ne_nothing
        | some b =>
            rw [readA, readB] at same
            refine ⟨a, b, rfl, rfl, (FieldType.sameValue_iff exact).mpr ⟨same, ?_⟩⟩
            rw [or_iff_not_imp_left]
            intro apart oversized
            exact plain ⟨a, b, default_of_oversized readA oversized,
              default_of_oversized readB (types ▸ oversized.of_valueOf_eq same), apart, same,
              oversized⟩

/-- Where the type stays, a default breaks readers exactly if they assume something else and do not
    leave it to an enum, or if one oversized number is spelled in two ways. -/
theorem defaultBreaks_iff (types : f.type = g.type) (exact : f.type.isFloating = false) :
    f.DefaultBreaks base candidate g ↔
      (f.assumed base ≠ g.assumed candidate ∧ ¬ f.DefersToEnum g) ∨ f.Respells g := by
  rw [DefaultBreaks, ← sameAssumedValue_iff]
  by_cases defaults : f.default = g.default
  · refine iff_of_false (fun breaks => breaks.1 defaults) ?_
    rintro (⟨differ, settled⟩ | ⟨a, b, explicitF, explicitG, apart, -⟩)
    · exact differ (assumed_eq_of_default_eq types defaults settled)
    · rw [explicitF, explicitG] at defaults
      exact apart (Option.some.inj defaults)
  · have settled : ¬ f.DefersToEnum g := fun defers => defaults (defers.1.trans defers.2.1.symm)
    rw [sameAssumedValue_iff_assumed types exact defaults]
    tauto

/-- Readers do not mind how a number is spelled. -/
theorem Respells.assumed_eq (types : f.type = g.type) (respells : f.Respells g) :
    f.assumed base = g.assumed candidate := by
  obtain ⟨a, b, explicitF, explicitG, -, same, -⟩ := respells
  rw [assumed_of_default explicitF, assumed_of_default explicitG, ← types, same]

/-- A tag that keeps its type stays with its field. -/
theorem not_rebound_of_type_eq (types : f.type = g.type) : ¬ f.Rebound g := by
  rintro ⟨-, unrelated⟩
  rw [types] at unrelated
  cases kind : g.type <;> simp [kind, FieldType.wireRelated, FieldType.sameFamily] at unrelated

end Field

theorem RuleId.eq_violation_of_defaultValueChanged {ctx : RuleContext} {event : ChangeEvent}
    {o : Outcome} (fires : defaultValueChanged.outcome? ctx event = some o) : o = .violation := by
  rw [outcome?_defaultValueChanged] at fires
  split at fires
  case h_2 => cases fires
  case h_1 =>
    split at fires
    · cases fires
    · split at fires
      · cases fires
      · exact (Option.some.inj fires).symm

section Tags

variable {base candidate : Snapshot} {old new : MessageType} {f g : Field}
  (validBase : base.Valid) (validCandidate : candidate.Valid) (before : .message old ∈ base.types)
  (after : .message new ∈ candidate.types) (same : old.name = new.name) (liveOld : f ∈ old.fields)
  (liveNew : g ∈ new.fields) (number : f.number = g.number)

include validBase validCandidate before after same liveOld liveNew number

/-- All that can happen to a tag in use on both sides, at the path of its field, is that the field
    changes. -/
theorem Happens.eq_modified_of_path {name : String} {event : ChangeEvent}
    (happens : Happens base candidate name event) (site : event.site = ⟨false, false⟩)
    (here : event.path = s!"{new.name}.{g.name}") :
    event = .modified (.fields old new f g) (f.changes old.reserved g) := by
  have identifier := ((validCandidate.messages _ after).fields g liveNew).identifier
  rcases happens.path_cases validBase validCandidate with ⟨onType, -⟩ | ⟨-, path, shown⟩
  · rw [site] at onType
    cases onType
  -- the path shows the owner and the name, so both messages and both fields are the given ones
  obtain ⟨owner, member⟩ := Identifier.path_inj shown identifier (path.symm.trans here)
  cases happens with
  | @typeAdded t => cases t <;> cases site
  | @typeRemoved t => cases t <;> cases site
  | message | enum => cases site
  | value beforeV => cases validBase.eq_of_name beforeV before (owner.trans same.symm)
  | field beforeF afterF sameF happens =>
      obtain rfl := TypeDef.message.inj
        (validBase.eq_of_name beforeF before (owner.trans same.symm))
      obtain rfl := TypeDef.message.inj
        (validCandidate.eq_of_name afterF after (sameF.symm.trans owner))
      have soundOld := (validBase.messages _ before).sound
      have soundNew := (validCandidate.messages _ after).sound
      cases happens with
      | removed => cases site
      | added liveH fresh =>
          obtain rfl := soundNew.eq_of_name liveH liveNew member
          exact absurd number (fresh f liveOld)
      | modified liveE liveH numbers =>
          obtain rfl := soundNew.eq_of_name liveH liveNew member
          obtain rfl := soundOld.eq_of_number liveE liveOld
            (congrArg Int.ofNat (numbers.trans number.symm))
          rfl

/-- The rule about defaults reports a tag in use on both sides exactly if the default breaks
    readers of a field that stays. -/
theorem Registry.occurrences_default {r : Registry} (distinct : r.rules.Nodup)
    (enabled : .defaultValueChanged ∈ r.rules) (kept : ¬ f.Rebound g) (generatedAt : Timestamp) :
    (f.DefaultBreaks base candidate g →
      (r.check base candidate generatedAt).occurrences .defaultValueChanged
        s!"{new.name}.{g.name}" = 1) ∧
    (¬ f.DefaultBreaks base candidate g →
      (r.check base candidate generatedAt).occurrences .defaultValueChanged
        s!"{new.name}.{g.name}" = 0) := by
  constructor
  · intro breaks
    have changed : f.changes old.reserved g ≠ [] := by
      intro unchanged
      exact breaks.1 (Field.changes_eq_nil_iff.mp unchanged).2.2.2.2
    have happens := Happens.field before after same (.modified liveOld liveNew number changed)
    have looks : RuleId.defaultValueChanged.site = (ChangeEvent.modified
      (.fields old new f g) (f.changes old.reserved g)).site := rfl
    refine (occurrences_of_happens distinct validBase validCandidate happens looks enabled
      generatedAt).trans ?_
    rw [ChangeEvent.defaultValueChanged_iff.mpr ⟨kept, breaks⟩]
    rfl
  · intro agrees
    refine occurrences_eq_zero distinct validBase validCandidate ?_ generatedAt
    intro name event happens here
    by_contra fires
    obtain ⟨o, fires⟩ := Option.ne_none_iff_exists'.mp fires
    have site : event.site = ⟨false, false⟩ := (RuleId.site_eq_of_fires fires).symm
    rw [happens.eq_modified_of_path validBase validCandidate before after same liveOld liveNew
      number site here] at fires
    obtain rfl := RuleId.eq_violation_of_defaultValueChanged fires
    exact agrees (ChangeEvent.defaultValueChanged_iff.mp fires).2

end Tags

/-- What a report says of the default of a tag in use on both sides, whose type stays: a field that
    leaves its default to an enum is passed over; of the others, those are reported with which
    readers assume another value than before, and those with an oversized default that is only
    spelled anew. -/
structure Report.JudgesDefault (report : Report) (base candidate : Snapshot) (f g : Field)
    (path : String) : Prop where
  deferred : f.DefersToEnum g → report.occurrences .defaultValueChanged path = 0
  respelled : f.Respells g → f.assumed base = g.assumed candidate ∧
    report.occurrences .defaultValueChanged path = 1
  reported : ¬ f.DefersToEnum g → ¬ f.Respells g →
    (report.occurrences .defaultValueChanged path = 1 ↔ f.assumed base ≠ g.assumed candidate)
  silent : ¬ f.DefersToEnum g → ¬ f.Respells g →
    (report.occurrences .defaultValueChanged path = 0 ↔ f.assumed base = g.assumed candidate)

/-- The rule about defaults compares what readers of the two sides assume, numbers by value, unless
    both sides leave the default to an enum: then it reports nothing, whatever the enum says. -/
theorem default_is_judged_unless_left_to_enum {base candidate : Snapshot} {settings : Settings}
    {r : Registry} (builtBase : base.IsBuilt) (builtCandidate : candidate.IsBuilt)
    (ok : Registry.ofSettings settings = .ok r) (enabled : .defaultValueChanged ∈ r.rules)
    {old new : MessageType} (before : .message old ∈ base.types)
    (after : .message new ∈ candidate.types) (same : old.name = new.name) {f g : Field}
    (liveOld : f ∈ old.fields) (liveNew : g ∈ new.fields) (number : f.number = g.number)
    (types : f.type = g.type) (exact : f.type.isFloating = false) (generatedAt : Timestamp) :
    (r.check base candidate generatedAt).JudgesDefault base candidate f g
      s!"{new.name}.{g.name}" := by
  have distinct := Registry.nodup_rules ok
  obtain ⟨breaks, keeps⟩ := Registry.occurrences_default builtBase.valid builtCandidate.valid before
    after same liveOld liveNew number distinct enabled (Field.not_rebound_of_type_eq types)
    generatedAt
  rw [Field.defaultBreaks_iff types exact] at breaks keeps
  refine ⟨?_, ?_, ?_, ?_⟩
  · intro defers
    refine keeps ?_
    rintro (⟨-, settled⟩ | ⟨a, -, explicit, -⟩)
    · exact settled defers
    · rw [defers.1] at explicit
      cases explicit
  · intro respells
    exact ⟨respells.assumed_eq types, breaks (.inr respells)⟩
  · intro settled plain
    constructor
    · intro once alike
      rw [keeps (by tauto)] at once
      cases once
    · intro differ
      exact breaks (.inl ⟨differ, settled⟩)
  · intro settled plain
    constructor
    · intro none
      by_contra differ
      rw [breaks (.inl ⟨differ, settled⟩)] at none
      cases none
    · intro alike
      exact keeps (by tauto)

/-- An alarm with a level that is one of the declared ones, and with an explicit default if one is
    given. -/
def alarmWith (label : String) (levels : List EnumValue) (default : Option String) : Snapshot where
  label
  version := none
  types := [.message ⟨"acme.Alarm", .proto2,
      [⟨1, "level", .enum "acme.Level", .singular, false, default⟩], .none⟩,
    .enum ⟨"acme.Level", .proto2, levels, .none⟩]

/-- To spell out the default that the enum implied is not reported, to spell out another one is. -/
theorem spelled_out_default_is_compared :
    ∃ r, Registry.ofSettings {} = .ok r ∧
      (r.check (alarmWith "before" [⟨1, "LOW"⟩, ⟨2, "HIGH"⟩] none)
        (alarmWith "kept" [⟨1, "LOW"⟩, ⟨2, "HIGH"⟩] (some "LOW")) .epoch).occurrences
          .defaultValueChanged "acme.Alarm.level" = 0 ∧
      (r.check (alarmWith "before" [⟨1, "LOW"⟩, ⟨2, "HIGH"⟩] none)
        (alarmWith "raised" [⟨1, "LOW"⟩, ⟨2, "HIGH"⟩] (some "HIGH")) .epoch).occurrences
          .defaultValueChanged "acme.Alarm.level" = 1 := by
  have builtBase : (alarmWith "before" [⟨1, "LOW"⟩, ⟨2, "HIGH"⟩] none).IsBuilt :=
    ⟨⟨"before", none, (alarmWith "before" [⟨1, "LOW"⟩, ⟨2, "HIGH"⟩] none).types⟩, by decide +kernel⟩
  have builtKept : (alarmWith "kept" [⟨1, "LOW"⟩, ⟨2, "HIGH"⟩] (some "LOW")).IsBuilt :=
    ⟨⟨"kept", none, (alarmWith "kept" [⟨1, "LOW"⟩, ⟨2, "HIGH"⟩] (some "LOW")).types⟩,
      by decide +kernel⟩
  have builtRaised : (alarmWith "raised" [⟨1, "LOW"⟩, ⟨2, "HIGH"⟩] (some "HIGH")).IsBuilt :=
    ⟨⟨"raised", none, (alarmWith "raised" [⟨1, "LOW"⟩, ⟨2, "HIGH"⟩] (some "HIGH")).types⟩,
      by decide +kernel⟩
  have kept := default_is_judged_unless_left_to_enum builtBase builtKept Registry.ofSettings_default
    (by decide) List.mem_cons_self List.mem_cons_self rfl List.mem_cons_self List.mem_cons_self rfl
    rfl rfl .epoch
  have raised := default_is_judged_unless_left_to_enum builtBase builtRaised
    Registry.ofSettings_default (by decide) List.mem_cons_self List.mem_cons_self rfl
    List.mem_cons_self List.mem_cons_self rfl rfl rfl .epoch
  refine ⟨.default, Registry.ofSettings_default, ?_, ?_⟩
  · refine (kept.silent ?_ ?_).mpr (by decide +kernel)
    · rintro ⟨-, explicit, -⟩
      cases explicit
    · rintro ⟨_, _, explicit, -⟩
      cases explicit
  · refine (raised.reported ?_ ?_).mpr (by decide +kernel)
    · rintro ⟨-, explicit, -⟩
      cases explicit
    · rintro ⟨_, _, explicit, -⟩
      cases explicit

/-- Where both sides leave the default to the enum and the enum gets another first value, readers
    assume another level, and the report does not say so. -/
theorem other_first_level_is_not_reported :
    ∃ base candidate r, ∃ f : Field,
      base = alarmWith "before" [⟨1, "LOW"⟩, ⟨2, "HIGH"⟩] none ∧
      candidate = alarmWith "after" [⟨0, "NONE"⟩, ⟨1, "LOW"⟩, ⟨2, "HIGH"⟩] none ∧
      base.IsBuilt ∧ candidate.IsBuilt ∧ Registry.ofSettings {} = .ok r ∧
      f = ⟨1, "level", .enum "acme.Level", .singular, false, none⟩ ∧
      f.assumed base = .text "LOW" ∧ f.assumed candidate = .text "NONE" ∧
      (r.check base candidate .epoch).occurrences .defaultValueChanged "acme.Alarm.level" = 0 := by
  refine ⟨_, _, .default, _, rfl, rfl, ?_, ?_, Registry.ofSettings_default, rfl, ?_, ?_, ?_⟩
  · exact ⟨⟨"before", none, (alarmWith "before" [⟨1, "LOW"⟩, ⟨2, "HIGH"⟩] none).types⟩,
      by decide +kernel⟩
  · exact ⟨⟨"after", none, (alarmWith "after" [⟨0, "NONE"⟩, ⟨1, "LOW"⟩, ⟨2, "HIGH"⟩] none).types⟩,
      by decide +kernel⟩
  · decide +kernel
  · decide +kernel
  · decide +kernel

end SchemaEvolution
