import SchemaEvolution.Proofs.Check.Findings
import SchemaEvolution.Proofs.Wire.Preorder

/-! # Replaced messages

What a run makes sure of where a field passes from one message to another one.  The rules keep
silent exactly if the field keeps its cardinality and the new message stands in for the old one
(`replacement_is_silent_iff`).  Standing in compares which fields are repeated, and no more of
their cardinalities: a field that the new message requires is not repeated in the old one, but the
old one need not require it, or know it at all (`required_field_slips_in`).
-/

namespace SchemaEvolution

/-- A field that refers to one message before and to another one after. -/
structure Replacement (base candidate : Snapshot) (old new : MessageType) (f g : Field)
    (a b : String) : Prop where
  before : .message old ∈ base.types
  after : .message new ∈ candidate.types
  same : old.name = new.name
  liveOld : f ∈ old.fields
  liveNew : g ∈ new.fields
  number : f.number = g.number
  refersOld : f.type = .message a
  refersNew : g.type = .message b
  differ : a ≠ b

/-- A report in which no rule about the types of fields speaks at a path. -/
def Report.SilentAt (report : Report) (path : String) : Prop :=
  ∀ found ∈ report.findings, found.path = path →
    found.rule ≠ .typeChange ∧ found.rule ≠ .tagReuse ∧ found.rule ≠ .requiredAdded

namespace Report

variable {report : Report} {path : String}

theorem silentAt_iff : report.SilentAt path ↔
    ∀ id ∈ [RuleId.typeChange, .tagReuse, .requiredAdded],
      (id, path) ∉ report.findings.map Finding.key := by
  simp only [SilentAt, List.mem_map, Finding.key, Prod.mk.injEq, not_exists, not_and,
    List.forall_mem_cons, List.not_mem_nil, false_implies, implies_true, and_true]
  constructor
  · intro silent
    exact ⟨fun found member rule path => (silent found member path).1 rule,
      fun found member rule path => (silent found member path).2.1 rule,
      fun found member rule path => (silent found member path).2.2 rule⟩
  · rintro ⟨type, tag, required⟩ found member path
    exact ⟨fun rule => type found member rule path, fun rule => tag found member rule path,
      fun rule => required found member rule path⟩

end Report

namespace Replacement

variable {base candidate : Snapshot} {old new : MessageType} {f g : Field} {a b : String}

theorem type_ne (replacement : Replacement base candidate old new f g a b) : f.type ≠ g.type := by
  rw [replacement.refersOld, replacement.refersNew]
  exact fun same => replacement.differ (FieldType.message.inj same)

theorem rebinds_eq (replacement : Replacement base candidate old new f g a b) :
    f.rebinds g = false := by
  simp [Field.rebinds, FieldType.wireRelated, FieldType.sameFamily, replacement.refersOld,
    replacement.refersNew]

theorem compare_eq (replacement : Replacement base candidate old new f g a b) :
    f.type.compare g.type = .ok .structural := by
  simp [FieldType.compare, FieldType.isGroup, FieldType.sameFamily, replacement.refersOld,
    replacement.refersNew, replacement.differ]

theorem happens (replacement : Replacement base candidate old new f g a b) :
    Happens base candidate old.name
      (.modified (.fields old new f g) (f.changes old.reserved g)) := by
  refine .field replacement.before replacement.after replacement.same
    (.modified replacement.liveOld replacement.liveNew replacement.number ?_)
  simp [Field.changes, replacement.type_ne]

/-- Such a field is judged by the walk over the two messages. -/
theorem typeOutcome?_eq {ctx : RuleContext}
    (replacement : Replacement base candidate old new f g a b) :
    f.typeOutcome? ctx g =
      match (ctx.superset.messages [] a b).1 with
      | .error _ => some .unevaluated
      | .ok true => if f.cardinality ≠ g.cardinality then some .violation else none
      | .ok false => some .violation := by
  have walk : ctx.superset.references [] f.type g.type = ctx.superset.messages [] a b := by
    rw [replacement.refersOld, replacement.refersNew]
    rfl
  rw [Field.typeOutcome?, replacement.compare_eq, replacement.rebinds_eq, walk]
  rcases (ctx.superset.messages [] a b).1 with fault | _ | _ <;> simp [replacement.type_ne]

theorem typeOutcome?_eq_none_iff {ctx : RuleContext}
    (replacement : Replacement base candidate old new f g a b) :
    f.typeOutcome? ctx g = none ↔
      f.cardinality = g.cardinality ∧ (ctx.superset.messages [] a b).1 = .ok true := by
  rw [replacement.typeOutcome?_eq]
  rcases (ctx.superset.messages [] a b).1 with fault | _ | _ <;> simp

/-- With the comparison of types enabled, silence means that the field keeps its cardinality and
    that the new message stands in for the old one. -/
theorem silentAt_iff {r : Registry} (replacement : Replacement base candidate old new f g a b)
    (distinct : r.rules.Nodup) (enabled : .typeChange ∈ r.rules) (validBase : base.Valid)
    (validCandidate : candidate.Valid) (generatedAt : Timestamp) :
    (r.check base candidate generatedAt).SilentAt s!"{new.name}.{g.name}" ↔
      f.cardinality = g.cardinality ∧
        ((r.context base candidate).superset.messages [] a b).1 = .ok true := by
  have reported {id : RuleId} (site : id.site = ⟨false, false⟩) :
      (id, s!"{new.name}.{g.name}") ∈
          (r.check base candidate generatedAt).findings.map Finding.key ↔
        id ∈ r.rules ∧ (id.outcome? (r.context base candidate)
          (.modified (.fields old new f g) (f.changes old.reserved g))).isSome :=
    Registry.mem_keys_findings_iff distinct validBase validCandidate replacement.happens site
  rw [Report.silentAt_iff, ← replacement.typeOutcome?_eq_none_iff]
  simp only [List.forall_mem_cons, List.not_mem_nil, false_implies, implies_true, and_true]
  rw [reported rfl, reported rfl, reported rfl]
  simp only [enabled, true_and, RuleId.outcome?_typeChange, RuleId.outcome?_tagReuse,
    RuleId.outcome?_requiredAdded, replacement.rebinds_eq, Option.not_isSome_iff_eq_none]
  constructor
  · exact fun silent => silent.1
  · intro silent
    obtain ⟨cardinality, -⟩ := replacement.typeOutcome?_eq_none_iff.mp silent
    refine ⟨silent, by simp, ?_⟩
    simp [cardinality]

end Replacement

/-- A run keeps silent about a replaced message exactly if the field keeps its cardinality and the
    walk from the two messages succeeds.  Of each pair of messages that such a walk sees, the new
    one requires no field that the old one repeats. -/
theorem replacement_is_silent_iff {base candidate : Snapshot} (builtBase : base.IsBuilt)
    (builtCandidate : candidate.IsBuilt) {settings : Settings} {r : Registry}
    (ok : Registry.ofSettings settings = .ok r) (enabled : .typeChange ∈ r.rules)
    {old new : MessageType} {f g : Field} {a b : String}
    (replacement : Replacement base candidate old new f g a b) (generatedAt : Timestamp) :
    ((r.check base candidate generatedAt).SilentAt s!"{new.name}.{g.name}" ↔
      f.cardinality = g.cardinality ∧
        ((Superset.mk base candidate settings.allowNarrowing).messages [] a b).1 = .ok true) ∧
    ((r.check base candidate generatedAt).SilentAt s!"{new.name}.{g.name}" →
      let seen := ((Superset.mk base candidate settings.allowNarrowing).messages [] a b).2
      (a, b) ∈ seen ∧ ∀ x y, (x, y) ∈ seen → ∃ m n, base.message? x = some m ∧
        candidate.message? y = some n ∧ ∀ k ∈ n.fields, k.cardinality = .required →
          ∀ h ∈ m.fields, h.number = k.number → h.cardinality ≠ .repeated) := by
  obtain ⟨-, -, -, rfl⟩ := Registry.ofSettings_eq_ok_iff.mp ok
  have silentAt := replacement.silentAt_iff (Registry.nodup_rules ok) enabled builtBase.valid
    builtCandidate.valid generatedAt
  refine ⟨silentAt, ?_⟩
  intro silent
  obtain ⟨-, succeeds⟩ := silentAt.mp silent
  refine ⟨(Superset.run_ok succeeds).2 _ (List.mem_singleton.mpr rfl), ?_⟩
  intro x y seen
  have closed := (Superset.Succeeded.fresh.messages succeeds).closed builtCandidate.valid
  obtain ⟨m, n, atBase, atCandidate, covers⟩ := closed x y seen
  refine ⟨m, n, atBase, atCandidate, ?_⟩
  intro k live required h liveOld number repeated
  -- What covers the old field has the number of the required one, so it is the required one.
  obtain ⟨l, liveNew, numberNew, repeats, -⟩ := covers h liveOld
  have sound := (builtCandidate.valid.of_message? atCandidate).sound
  obtain rfl := sound.eq_of_number liveNew live (congrArg Int.ofNat (numberNew.trans number))
  rw [repeated, required] at repeats
  exact absurd repeats (by decide)

/-- A message with a field that the peers of an account send or not. -/
def account : MessageType :=
  ⟨"acme.Account", .proto2, [⟨1, "id", .scalar .int32, .singular, false, none⟩], .none⟩

/-- A message with the same field, sent as often as is told. -/
def profile (cardinality : Cardinality) : MessageType :=
  ⟨"acme.Profile", .proto2, [⟨1, "id", .scalar .int32, cardinality, false, none⟩], .none⟩

def userField (name : String) : Field := ⟨1, "user", .message name, .singular, false, none⟩

def login (name : String) : MessageType := ⟨"acme.Login", .proto2, [userField name], .none⟩

def accountLogins : Snapshot :=
  ⟨"accounts", none, [.message account, .message (login "acme.Account")]⟩

def profileLogins (cardinality : Cardinality) : Snapshot :=
  ⟨"profiles", none, [.message account, .message (login "acme.Profile"),
    .message (profile cardinality)]⟩

theorem isBuilt_accountLogins : accountLogins.IsBuilt :=
  ⟨⟨"accounts", none, accountLogins.types⟩, by decide +kernel⟩

theorem isBuilt_profileLogins (cardinality : Cardinality) :
    (profileLogins cardinality).IsBuilt := by
  refine ⟨⟨"profiles", none, (profileLogins cardinality).types⟩, ?_⟩
  cases cardinality <;> decide +kernel

theorem replacement_of_account (cardinality : Cardinality) :
    Replacement accountLogins (profileLogins cardinality) (login "acme.Account")
      (login "acme.Profile") (userField "acme.Account") (userField "acme.Profile") "acme.Account"
      "acme.Profile" where
  before := List.mem_cons_of_mem _ List.mem_cons_self
  after := List.mem_cons_of_mem _ List.mem_cons_self
  same := rfl
  liveOld := List.mem_cons_self
  liveNew := List.mem_cons_self
  number := rfl
  refersOld := rfl
  refersNew := rfl
  differ := by decide

/-- Repeated or not: nothing else of the cardinality of a member decides. -/
theorem messages_account (cardinality : Cardinality) :
    ((Superset.mk accountLogins (profileLogins cardinality) false).messages [] "acme.Account"
      "acme.Profile").1 = .ok (!cardinality.isRepeated) := by
  have found : (Superset.mk accountLogins (profileLogins cardinality) false).messagePair
      "acme.Account" "acme.Profile" = .ok (account, profile cardinality) := by
    cases cardinality <;> rfl
  have judged : (Superset.mk accountLogins (profileLogins cardinality) false).leaf
      (.scalar .int32) (.scalar .int32) = .ok true := by rfl
  rw [Superset.messages, Superset.run_message List.not_mem_nil found]
  cases cardinality <;>
    simp [Superset.demands, Superset.demand, MessageType.field?, Superset.run, account, profile,
      judged, Cardinality.isRepeated]

theorem repeated_field_is_noticed :
    ¬ (Registry.default.check accountLogins (profileLogins .repeated) .epoch).SilentAt
      "acme.Login.user" := by
  intro silent
  have enabled : .typeChange ∈ Registry.default.rules := by decide
  obtain ⟨-, walk⟩ := (replacement_is_silent_iff isBuilt_accountLogins
    (isBuilt_profileLogins .repeated) Registry.ofSettings_default enabled
    (replacement_of_account .repeated) .epoch).1.mp silent
  have refused := messages_account .repeated
  rw [show Settings.allowNarrowing {} = false from rfl, refused] at walk
  cases walk

/-- A required field slips in: the report keeps silent about the new message, which requires a
    field that the old one does not. -/
theorem required_field_slips_in :
    accountLogins.IsBuilt ∧ (profileLogins .required).IsBuilt ∧
      Replacement accountLogins (profileLogins .required) (login "acme.Account")
        (login "acme.Profile") (userField "acme.Account") (userField "acme.Profile")
        "acme.Account" "acme.Profile" ∧
      ∃ r, Registry.ofSettings {} = .ok r ∧
        (∀ generatedAt, (r.check accountLogins (profileLogins .required) generatedAt).SilentAt
          "acme.Login.user") ∧
        ∃ old new, accountLogins.message? "acme.Account" = some old ∧
          (profileLogins .required).message? "acme.Profile" = some new ∧
          ¬ ∀ k ∈ new.fields, k.cardinality = .required →
            ∃ h ∈ old.fields, h.number = k.number ∧ h.cardinality = .required := by
  refine ⟨isBuilt_accountLogins, isBuilt_profileLogins .required,
    replacement_of_account .required, .default, Registry.ofSettings_default, ?_,
    account, profile .required, rfl, rfl, ?_⟩
  · intro generatedAt
    exact ((replacement_of_account .required).silentAt_iff
      (Registry.nodup_rules Registry.ofSettings_default) (by decide) isBuilt_accountLogins.valid
      (isBuilt_profileLogins .required).valid generatedAt).mpr ⟨rfl, messages_account .required⟩
  · intro kept
    obtain ⟨h, live, -, required⟩ := kept _ List.mem_cons_self rfl
    obtain rfl := List.mem_singleton.mp live
    cases required

end SchemaEvolution
