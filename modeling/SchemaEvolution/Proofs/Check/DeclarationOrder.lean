import SchemaEvolution.Proofs.Check.Replacement
import SchemaEvolution.Proofs.Check.Verdict
import SchemaEvolution.Proofs.Rule.Reordering
import SchemaEvolution.Proofs.Wire.Faults

/-! # Reports and declaration order

A report does not depend on the order in which definitions declare what they declare, nor on the
order in which types were pushed, except for the checksums (`report_of_reordered`).  One condition
is left: where a field passes from one message to another, the walk over the two messages may be
refused for several reasons, a plain no and a fault, and then the order of the fields decides
between a breaking finding and an advisory one (`field_order_decides_verdict`).
-/

namespace SchemaEvolution

theorem DiffStats.ofEvents_eq_of_forall₂ {events others : List ChangeEvent}
    (related : List.Forall₂ ChangeEvent.Reordered events others) :
    ofEvents events = ofEvents others := by
  induction related with
  | nil => rfl
  | @cons d e events others first _ ih =>
      change ofEvent d + ofEvents events = ofEvent e + ofEvents others
      rw [first.ofEvent_eq, ih]

theorem Happens.of_fields {base candidate : Snapshot} {name : String} {old new : MessageType}
    {f g : Field} {changes : List Change}
    (happens : Happens base candidate name (.modified (.fields old new f g) changes)) :
    .message old ∈ base.types ∧ .message new ∈ candidate.types ∧ old.name = new.name ∧
      f ∈ old.fields ∧ g ∈ new.fields ∧ f.number = g.number := by
  cases happens with
  | field before after same happens =>
      cases happens with
      | modified liveOld liveNew number => exact ⟨before, after, same, liveOld, liveNew, number⟩
  | value before after same happens => cases happens

section Reordered

variable {base base' candidate candidate' : Snapshot} (reorderedBase : base.Reordered base')
  (reorderedCandidate : candidate.Reordered candidate')
include reorderedBase reorderedCandidate

theorem Finding.annotate_of_reordered (f : Finding) :
    f.annotate base candidate = f.annotate base' candidate' := by
  rw [annotate, annotate, reorderedCandidate.has_eq]
  cases candidate'.has f.typeName <;>
    simp [reorderedBase.embedders_eq, reorderedCandidate.embedders_eq]

theorem TypePair.all_of_reordered :
    TypePair.all base' candidate' =
      (TypePair.all base candidate).map fun pair =>
        ⟨pair.name, base'.get? pair.name, candidate'.get? pair.name⟩ := by
  simp [TypePair.all, reorderedBase.names_eq, reorderedCandidate.names_eq, Function.comp_def]

namespace Registry

variable {r : Registry} (validCandidate : candidate.Valid) (validCandidate' : candidate'.Valid)
  (unanimous : .typeChange ∈ r.rules → ∀ old new f g a b,
    Replacement base candidate old new f g a b →
      (r.context base candidate).superset.Unanimous a b)
include validCandidate validCandidate' unanimous

theorem findingOf_of_reordered {name : String} {d e : ChangeEvent}
    (happens : Happens base candidate name d) (same : d.Reordered e) {id : RuleId}
    (enabled : id ∈ r.rules) :
    r.findingOf (r.context base candidate) name d id =
      r.findingOf (r.context base' candidate') name e id := by
  have contexts : (r.context base candidate).Reordered (r.context base' candidate') :=
    ⟨reorderedBase, reorderedCandidate, rfl⟩
  have checked : id.check (r.context base candidate) d =
      id.check (r.context base' candidate') e := by
    refine id.check_of_reordered contexts same ?_
    -- Fields are walked over only if they pass from one message to another: a replacement.
    rintro rfl old new f g changes rfl differ
    obtain ⟨before, after, named, liveOld, liveNew, number⟩ := happens.of_fields
    refine Superset.references_of_reordered reorderedBase reorderedCandidate validCandidate
      validCandidate' ?_
    intro a b refersOld refersNew
    refine unanimous enabled old new f g a b
      ⟨before, after, named, liveOld, liveNew, number, refersOld, refersNew, ?_⟩
    rintro rfl
    exact differ (refersOld.trans refersNew.symm)
  have found : r.finding name d id = r.finding name e id := by
    funext o
    rw [finding, finding, same.path_eq]
  rw [findingOf, findingOf, checked, found]

variable (validBase : base.Valid)
include validBase

theorem examine_of_reordered {pair : TypePair} (member : pair ∈ TypePair.all base candidate) :
    r.examine base candidate pair = r.examine base' candidate'
      ⟨pair.name, base'.get? pair.name, candidate'.get? pair.name⟩ := by
  obtain ⟨atBase, atCandidate, -⟩ := TypePair.mem_all_iff.mp member
  have related : List.Forall₂ ChangeEvent.Reordered (TypeDiff.of pair).events
      (ChangeEvent.ofTypes (base'.get? pair.name) (candidate'.get? pair.name)) := by
    rw [TypeDiff.of, atBase, atCandidate]
    exact ChangeEvent.forall₂_ofTypes validBase validCandidate reorderedBase reorderedCandidate _
  rw [examine, examine, TypeOutcome.mk.injEq]
  refine ⟨DiffStats.ofEvents_eq_of_forall₂ related, flatMap_eq_of_forall₂ related ?_⟩
  intro d emitted e same
  refine List.filterMap_congr fun id enabled => ?_
  have happens : Happens base candidate pair.name d :=
    (happens_iff_mem_events validBase validCandidate).mpr ⟨pair, member, rfl, emitted⟩
  exact findingOf_of_reordered reorderedBase reorderedCandidate validCandidate validCandidate'
    unanimous happens same enabled

theorem check_of_reordered (generatedAt : Timestamp) :
    r.check base' candidate' generatedAt =
      { r.check base candidate generatedAt with
        base.checksum := base'.checksum
        candidate.checksum := candidate'.checksum } := by
  have outcomes : (TypePair.all base' candidate').map (r.examine base' candidate') =
      (TypePair.all base candidate).map (r.examine base candidate) := by
    rw [TypePair.all_of_reordered reorderedBase reorderedCandidate, List.map_map]
    refine List.map_congr_left fun pair member => ?_
    exact (examine_of_reordered reorderedBase reorderedCandidate validCandidate validCandidate'
      unanimous validBase member).symm
  have annotated : Finding.annotate base' candidate' = Finding.annotate base candidate :=
    funext fun f => (Finding.annotate_of_reordered reorderedBase reorderedCandidate f).symm
  have sizeBase := reorderedBase.types.length_eq
  have sizeCandidate := reorderedCandidate.types.length_eq
  simp [check, reportOn, Report.assemble, outcomes, annotated, SnapshotInfo.of,
    reorderedBase.label, reorderedBase.version, reorderedCandidate.label,
    reorderedCandidate.version, sizeBase, sizeCandidate]

end Registry

end Reordered

/-- Where no definition has a group, no order of declarations makes a difference to the walks. -/
theorem Replacement.unanimous_of_groupless {base candidate : Snapshot} (validBase : base.Valid)
    (validCandidate : candidate.Valid) (plainBase : base.Groupless)
    (plainCandidate : candidate.Groupless) {allowNarrowing : Bool} {old new : MessageType}
    {f g : Field} {a b : String} (replacement : Replacement base candidate old new f g a b) :
    (Superset.mk base candidate allowNarrowing).Unanimous a b := by
  obtain ⟨m, atBase⟩ := ((validBase.messages old replacement.before).fields f
    replacement.liveOld).exists_message? replacement.refersOld
  obtain ⟨n, atCandidate⟩ := ((validCandidate.messages new replacement.after).fields g
    replacement.liveNew).exists_message? replacement.refersNew
  exact Superset.unanimous_of_groupless validBase validCandidate plainBase plainCandidate atBase
    atCandidate

/-- Drafts that are built in some order are built in every other one, and the reports differ in the
    checksums at most, if each walk over two messages that replace each other is refused for one
    reason at most. -/
theorem report_of_reordered {d d' e e' : Draft} {base candidate : Snapshot}
    (builtBase : d.build = .ok base) (builtCandidate : e.build = .ok candidate)
    (orderBase : d.Reordered d') (orderCandidate : e.Reordered e') {settings : Settings}
    (valid : settings.validate = .ok ()) :
    ∃ base' candidate' r, d'.build = .ok base' ∧ e'.build = .ok candidate' ∧
      Registry.ofSettings settings = .ok r ∧
      ((.typeChange ∈ r.rules → ∀ old new f g a b, Replacement base candidate old new f g a b →
          (Superset.mk base candidate settings.allowNarrowing).Unanimous a b) →
        ∀ generatedAt, r.check base' candidate' generatedAt =
          { r.check base candidate generatedAt with
            base.checksum := base'.checksum
            candidate.checksum := candidate'.checksum }) := by
  obtain ⟨base', built', reorderedBase⟩ := orderBase.exists_build builtBase
  obtain ⟨candidate', builtCandidate', reorderedCandidate⟩ :=
    orderCandidate.exists_build builtCandidate
  obtain ⟨r, ok⟩ := Registry.exists_ofSettings valid
  obtain ⟨-, -, -, rfl⟩ := Registry.ofSettings_eq_ok_iff.mp ok
  have validBase := Snapshot.IsBuilt.valid ⟨d, builtBase⟩
  have validCandidate := Snapshot.IsBuilt.valid ⟨e, builtCandidate⟩
  have validCandidate' := Snapshot.IsBuilt.valid ⟨e', builtCandidate'⟩
  refine ⟨base', candidate', r, built', builtCandidate', ok, ?_⟩
  intro unanimous generatedAt
  exact Registry.check_of_reordered reorderedBase reorderedCandidate validCandidate
    validCandidate' unanimous validBase generatedAt

namespace Walls

def contents (type : FieldType) : Field := ⟨1, "contents", type, .singular, false, none⟩

def size (type : FieldType) : Field := ⟨2, "size", type, .singular, false, none⟩

/-- A block with some reserved tags. -/
def block (name : String) (fields : List Field) (ranges : List ReservedRange) : TypeDef :=
  .message ⟨name, .proto2, fields, ⟨ranges, .empty⟩⟩

def blocks (name : String) : Field := ⟨1, "blocks", .message name, .repeated, false, none⟩

def wall (name : String) : MessageType := ⟨"acme.Wall", .proto2, [blocks name], .none⟩

/-- Walls of stones, which have some fields. -/
def stones (fields : List Field) : Snapshot :=
  ⟨"stones", none, [block "acme.Stone" fields [], .message (wall "acme.Stone")]⟩

/-- Walls of bricks, which have some fields and some reserved tags. -/
def bricks (fields : List Field) (ranges : List ReservedRange) : Snapshot :=
  ⟨"bricks", none, [block "acme.Brick" fields ranges, .message (wall "acme.Brick")]⟩

theorem blocks_reordered {name : String} {fields others : List Field}
    {ranges otherRanges : List ReservedRange} (fieldOrder : fields.Perm others)
    (rangeOrder : ranges.Perm otherRanges) :
    List.Forall₂ TypeDef.Reordered [block name fields ranges, .message (wall name)]
      [block name others otherRanges, .message (wall name)] :=
  .cons (.message ⟨rfl, rfl, fieldOrder, ⟨rangeOrder, rfl⟩⟩)
    (.cons (.message ⟨rfl, rfl, .refl _, ⟨.refl _, rfl⟩⟩) .nil)

theorem replacement_of_blocks (fields others : List Field) (ranges : List ReservedRange) :
    Replacement (stones fields) (bricks others ranges) (wall "acme.Stone") (wall "acme.Brick")
      (blocks "acme.Stone") (blocks "acme.Brick") "acme.Stone" "acme.Brick" where
  before := List.mem_cons_of_mem _ List.mem_cons_self
  after := List.mem_cons_of_mem _ List.mem_cons_self
  same := rfl
  liveOld := List.mem_cons_self
  liveNew := List.mem_cons_self
  number := rfl
  refersOld := rfl
  refersNew := rfl
  differ := by decide

theorem groupless_of_block {s : Snapshot} {name other : String} {fields : List Field}
    {ranges : List ReservedRange}
    (types : s.types = [block name fields ranges, .message (wall other)])
    (plain : ∀ f ∈ fields, f.type.isGroup = false) : s.Groupless := by
  intro m member f live
  rw [types] at member
  simp only [List.mem_cons, List.not_mem_nil, or_false, block, TypeDef.message.injEq] at member
  rcases member with rfl | rfl
  · exact plain f live
  · rw [List.mem_singleton.mp live]
    rfl

/-- Walls of stones and of bricks in two orders: two fields that are refused, and two ranges. -/
theorem reordered_walls_have_one_report :
    let old := [contents (.scalar .int32), size (.scalar .int32)]
    let new := [contents (.scalar .string), size (.scalar .bytes)]
    ∃ s t r, Draft.build ⟨"stones", none, (stones old.reverse).types.reverse⟩ = .ok s ∧
      Draft.build ⟨"bricks", none, (bricks new.reverse [⟨9, 10⟩, ⟨5, 5⟩]).types.reverse⟩ = .ok t ∧
      Registry.ofSettings {} = .ok r ∧ ∀ generatedAt, r.check s t generatedAt =
        { r.check (stones old) (bricks new [⟨5, 5⟩, ⟨9, 10⟩]) generatedAt with
          base.checksum := s.checksum
          candidate.checksum := t.checksum } := by
  intro old new
  have builtBase : Draft.build ⟨"stones", none, (stones old).types⟩ = .ok (stones old) := by
    decide +kernel
  have builtCandidate :
      Draft.build ⟨"bricks", none, (bricks new [⟨5, 5⟩, ⟨9, 10⟩]).types⟩ =
        .ok (bricks new [⟨5, 5⟩, ⟨9, 10⟩]) := by
    decide +kernel
  have plain (first second : Scalar) : ∀ f ∈ [contents (.scalar first), size (.scalar second)],
      f.type.isGroup = false := by
    simp [contents, size, FieldType.isGroup]
  have orderBase : Draft.Reordered ⟨"stones", none, (stones old).types⟩
      ⟨"stones", none, (stones old.reverse).types.reverse⟩ :=
    ⟨rfl, rfl, _, (List.reverse_perm _).symm,
      List.forall₂_reverse_iff.mpr (blocks_reordered (List.reverse_perm _).symm (.refl _))⟩
  have orderCandidate : Draft.Reordered ⟨"bricks", none, (bricks new [⟨5, 5⟩, ⟨9, 10⟩]).types⟩
      ⟨"bricks", none, (bricks new.reverse [⟨9, 10⟩, ⟨5, 5⟩]).types.reverse⟩ :=
    ⟨rfl, rfl, _, (List.reverse_perm _).symm,
      List.forall₂_reverse_iff.mpr (blocks_reordered (List.reverse_perm _).symm (.swap ..))⟩
  have valid : ({} : Settings).validate = .ok () := rfl
  obtain ⟨s, t, r, builtS, builtT, ok, same⟩ :=
    report_of_reordered builtBase builtCandidate orderBase orderCandidate valid
  refine ⟨s, t, r, builtS, builtT, ok, same ?_⟩
  intro _ _ _ _ _ _ _ replacement
  exact replacement.unanimous_of_groupless (Snapshot.IsBuilt.valid ⟨_, builtBase⟩)
    (Snapshot.IsBuilt.valid ⟨_, builtCandidate⟩) (groupless_of_block rfl (plain _ _))
    (groupless_of_block rfl (plain _ _))

theorem messages_blocks {old new : List Field} {ranges : List ReservedRange} :
    (Superset.mk (stones old) (bricks new ranges) false).messages [] "acme.Stone" "acme.Brick" =
      (Superset.mk (stones old) (bricks new ranges) false).run [("acme.Stone", "acme.Brick")]
        (Superset.demands ⟨"acme.Stone", .proto2, old, ⟨[], .empty⟩⟩
          ⟨"acme.Brick", .proto2, new, ⟨ranges, .empty⟩⟩) := by
  have found : (Superset.mk (stones old) (bricks new ranges) false).messagePair "acme.Stone"
      "acme.Brick" = .ok (⟨"acme.Stone", .proto2, old, ⟨[], .empty⟩⟩,
        ⟨"acme.Brick", .proto2, new, ⟨ranges, .empty⟩⟩) := rfl
  rw [Superset.messages, Superset.run_message List.not_mem_nil found, List.append_nil]

/-- The fields of a stone whose contents are a group. -/
def nested : List Field := [contents (.group "acme.Stone"), size (.scalar .int32)]

/-- The fields of a brick that refuses both of them. -/
def flat : List Field := [contents (.scalar .int32), size (.scalar .string)]

theorem messages_nested :
    ((Superset.mk (stones nested) (bricks flat []) false).messages [] "acme.Stone"
      "acme.Brick").1 = .error (.unclassifiable (.group "acme.Stone") (.scalar .int32)) := by
  have judged (s : Superset) : s.leaf (.group "acme.Stone") (.scalar .int32) =
      .error (.unclassifiable (.group "acme.Stone") (.scalar .int32)) := rfl
  rw [messages_blocks]
  simp [Superset.demands, Superset.demand, MessageType.field?, Superset.run, nested, flat,
    contents, size, judged]

theorem messages_nested_reverse :
    ((Superset.mk (stones nested.reverse) (bricks flat []) false).messages [] "acme.Stone"
      "acme.Brick").1 = .ok false := by
  have judged (s : Superset) : s.leaf (.scalar .int32) (.scalar .string) = .ok false := rfl
  rw [messages_blocks]
  simp [Superset.demands, Superset.demand, MessageType.field?, Superset.run, nested, flat,
    contents, size, judged]

theorem build_nested : Draft.build ⟨"stones", none, (stones nested).types⟩ =
    .ok (stones nested) := by
  decide +kernel

theorem build_nested_reverse : Draft.build ⟨"stones", none, (stones nested.reverse).types⟩ =
    .ok (stones nested.reverse) := by
  decide +kernel

theorem build_flat : Draft.build ⟨"bricks", none, (bricks flat []).types⟩ =
    .ok (bricks flat []) := by
  decide +kernel

/-- Beside what happens to whole types, the blocks of the wall are replaced. -/
theorem event_of_happens {name : String} {event : ChangeEvent}
    (happens : Happens (stones nested) (bricks flat []) name event) :
    event.site.onType = true ∨
      event = .modified (.fields (wall "acme.Stone") (wall "acme.Brick") (blocks "acme.Stone")
        (blocks "acme.Brick")) [.type (.message "acme.Stone") (.message "acme.Brick")] := by
  obtain ⟨pair, member, -, emitted⟩ := (Registry.happens_iff_mem_events
    (Snapshot.IsBuilt.valid ⟨_, build_nested⟩) (Snapshot.IsBuilt.valid ⟨_, build_flat⟩)).mp happens
  have known : ∀ pair ∈ TypePair.all (stones nested) (bricks flat []),
      ∀ event ∈ (TypeDiff.of pair).events, event.site.onType = true ∨
        event = .modified (.fields (wall "acme.Stone") (wall "acme.Brick") (blocks "acme.Stone")
          (blocks "acme.Brick")) [.type (.message "acme.Stone") (.message "acme.Brick")] := by
    decide +kernel
  exact known pair member event emitted

theorem verdict_nested (generatedAt : Timestamp) :
    (Registry.default.check (stones nested) (bricks flat []) generatedAt).verdict = .pass := by
  rw [Registry.check_verdict, if_neg]
  rw [Registry.any_isBreaking_iff (Registry.nodup_rules Registry.ofSettings_default)
    (Snapshot.IsBuilt.valid ⟨_, build_nested⟩) (Snapshot.IsBuilt.valid ⟨_, build_flat⟩) rfl]
  rintro ⟨name, event, happens, id, -, o, fires, grave⟩
  have breaking : event.Breaking (Registry.default.context (stones nested) (bricks flat [])) :=
    ⟨id, o, fires, grave⟩
  rcases event_of_happens happens with onType | rfl
  · exact ChangeEvent.not_breaking_of_onType onType breaking
  · -- The walk ends with a fault, and a rule that cannot judge is advisory.
    have replacement := replacement_of_blocks nested flat []
    have walk : ((Registry.default.context (stones nested) (bricks flat [])).superset.messages []
        "acme.Stone" "acme.Brick").1 = _ := messages_nested
    have cardinality (name : String) : (blocks name).cardinality = .repeated := rfl
    have default (name : String) : (blocks name).default = none := rfl
    rw [ChangeEvent.breaking_iff] at breaking
    simp [replacement.rebinds_eq, replacement.typeOutcome?_eq, walk, cardinality,
      default] at breaking

theorem verdict_nested_reverse (generatedAt : Timestamp) :
    (Registry.default.check (stones nested.reverse) (bricks flat []) generatedAt).verdict =
      .fail := by
  rw [Registry.check_verdict, if_pos]
  rw [Registry.any_isBreaking_iff (Registry.nodup_rules Registry.ofSettings_default)
    (Snapshot.IsBuilt.valid ⟨_, build_nested_reverse⟩)
    (Snapshot.IsBuilt.valid ⟨_, build_flat⟩) rfl]
  have replacement := replacement_of_blocks nested.reverse flat []
  have walk : ((Registry.default.context (stones nested.reverse)
      (bricks flat [])).superset.messages [] "acme.Stone" "acme.Brick").1 = .ok false :=
    messages_nested_reverse
  refine ⟨_, _, replacement.happens, .typeChange, by decide, .violation, ?_, rfl⟩
  simp only [RuleId.outcome?_typeChange, replacement.typeOutcome?_eq, walk]

/-- The order of fields decides: the same walls pass with one order of the fields of a stone and
    fail with the other one. -/
theorem field_order_decides_verdict :
    Draft.build ⟨"stones", none, (stones nested).types⟩ = .ok (stones nested) ∧
      Draft.build ⟨"stones", none, (stones nested.reverse).types⟩ = .ok (stones nested.reverse) ∧
      Draft.build ⟨"bricks", none, (bricks flat []).types⟩ = .ok (bricks flat []) ∧
      Draft.Reordered ⟨"stones", none, (stones nested).types⟩
        ⟨"stones", none, (stones nested.reverse).types⟩ ∧
      ∃ r, Registry.ofSettings {} = .ok r ∧ ∀ generatedAt,
        (r.check (stones nested) (bricks flat []) generatedAt).verdict = .pass ∧
        (r.check (stones nested.reverse) (bricks flat []) generatedAt).verdict = .fail := by
  refine ⟨build_nested, build_nested_reverse, build_flat, ?_, .default,
    Registry.ofSettings_default, fun _ => ⟨verdict_nested _, verdict_nested_reverse _⟩⟩
  exact ⟨rfl, rfl, _, .refl _, blocks_reordered (List.reverse_perm _).symm (.refl _)⟩

end Walls

end SchemaEvolution
