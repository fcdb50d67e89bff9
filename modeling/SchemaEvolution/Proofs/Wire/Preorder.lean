import SchemaEvolution.Proofs.Wire.Superset

/-! # Supersets across revisions

To stand in for a message is a preorder over revisions: a message stands in for itself, and what
stands in for a stand-in stands in for the first message (`messages_refl_and_trans`).  Two walks
over different snapshots compose because closed relations do: their composition is closed again.
Beneath that lie two facts about single types.  Conversions that follow each other make one
conversion that is no narrower than they are, and a reference leads to a type that exists.
-/

namespace SchemaEvolution

namespace Conversion

/-- Conversions compose: what they make together narrows only if one of them does. -/
theorem find?_trans {a b c : Scalar} {first second : Conversion} (there : find? a b = some first)
    (onward : find? b c = some second) :
    a = c ∨ ∃ whole, find? a c = some whole ∧
      (whole = .narrowing → first = .narrowing ∨ second = .narrowing) := by
  -- The table is finite: each entry is followed by each other one.
  have composes : ∀ e ∈ table, ∀ d ∈ table, e.2.1 = d.1 → e.1 = d.2.1 ∨
      ∃ whole ∈ find? e.1 d.2.1,
        (whole = .narrowing → e.2.2 = .narrowing ∨ d.2.2 = .narrowing) := by
    decide
  exact composes _ (mem_table_of_find? there) _ (mem_table_of_find? onward) rfl

end Conversion

namespace Snapshot

variable {s : Snapshot} {m : MessageType} {f : Field} {name : String}

theorem FieldValid.exists_message? (valid : s.FieldValid m f) (refers : f.type = .message name) :
    ∃ target, s.message? name = some target := by
  obtain ⟨t, found, kind⟩ := valid.resolves name .message (by rw [refers]; rfl)
  cases t with
  | message target => exact ⟨target, by rw [message?, found]; rfl⟩
  | enum target => cases kind

theorem FieldValid.exists_enum? (valid : s.FieldValid m f) (refers : f.type = .enum name) :
    ∃ target, s.enum? name = some target := by
  obtain ⟨t, found, kind⟩ := valid.resolves name .enum (by rw [refers]; rfl)
  cases t with
  | message target => cases kind
  | enum target => exact ⟨target, by rw [enum?, found]; rfl⟩

end Snapshot

namespace Superset

/-- A check whose calls have all succeeded says yes exactly to what stands in. -/
theorem messages_eq_ok_true_iff {s : Superset} (sound : s.candidate.Valid)
    {visited : List (String × String)} (succeeded : s.Succeeded visited) {a b : String} :
    (s.messages visited a b).1 = .ok true ↔ s.StandsIn a b := by
  constructor
  · intro ok
    have seen := (run_ok ok).2 _ (List.mem_singleton.mpr rfl)
    exact ⟨_, (succeeded.messages ok).closed sound, seen⟩
  · intro related
    refine run_of_closed sound closed_standsIn ?_
    intro d member
    rw [List.mem_singleton.mp member]
    exact related

section Identity

variable {s : Snapshot} {allowNarrowing : Bool}

/-- The messages of a snapshot, each related to itself. -/
def Itself (s : Snapshot) (x y : String) : Prop := x = y ∧ ∃ m, s.message? x = some m

theorem allowed_self {m : MessageType} {f : Field} (valid : s.FieldValid m f) :
    (Superset.mk s s allowNarrowing).Allowed (Itself s) f.type f.type := by
  cases type : f.type with
  | scalar kind => exact .inl rfl
  | group name => exact .inl rfl
  | message name => exact ⟨rfl, valid.exists_message? type⟩
  | enum name =>
      obtain ⟨e, found⟩ := valid.exists_enum? type
      exact ⟨e, e, found, found, fun v member => ⟨v, member, rfl⟩⟩

theorem closed_itself (valid : s.Valid) : (Superset.mk s s allowNarrowing).Closed (Itself s) := by
  rintro x _ ⟨rfl, m, found⟩
  refine ⟨m, m, found, found, ?_⟩
  intro f member
  exact ⟨f, member, rfl, rfl, allowed_self ((valid.of_message? found).fields f member)⟩

end Identity

section Composition

variable {s t u : Snapshot} {allowNarrowing : Bool} {R Q : String → String → Prop}

theorem Allowed.of_message {s : Superset} {name : String} {b : FieldType}
    (allowed : s.Allowed R (.message name) b) : ∃ other, b = .message other ∧ R name other := by
  cases b with
  | message other => exact ⟨other, rfl, allowed⟩
  | _ => rcases allowed with same | ⟨_, converts, -⟩ <;> contradiction

theorem Allowed.of_enum {s : Superset} {name : String} {b : FieldType}
    (allowed : s.Allowed R (.enum name) b) :
    ∃ other, b = .enum other ∧ s.Allowed R (.enum name) (.enum other) := by
  cases b with
  | enum other => exact ⟨other, rfl, allowed⟩
  | _ => rcases allowed with same | ⟨_, converts, -⟩ <;> contradiction

/-- A scalar is exchanged for a scalar, at will or by a conversion that is tolerated. -/
theorem Allowed.of_scalar {s : Superset} {old : Scalar} {b : FieldType}
    (allowed : s.Allowed R (.scalar old) b) :
    ∃ new, b = .scalar new ∧ (old = new ∨ ∃ conversion, Conversion.find? old new = some conversion ∧
      (conversion = .narrowing → s.allowNarrowing = true)) := by
  rcases allowed with same | ⟨conversion, converts, tolerated⟩
  · exact ⟨old, same.symm, .inl rfl⟩
  · obtain ⟨_, new, same, rfl, found⟩ := FieldType.exists_of_conversion? converts
    obtain rfl := FieldType.scalar.inj same
    exact ⟨new, rfl, .inr ⟨conversion, found, tolerated⟩⟩

theorem Allowed.of_group {s : Superset} {name : String} {b : FieldType}
    (allowed : s.Allowed R (.group name) b) : b = .group name := by
  rcases allowed with same | ⟨_, converts, -⟩
  · exact same.symm
  · contradiction

theorem allowed_scalar_trans {a b c : Scalar}
    (there : (Superset.mk s t allowNarrowing).Allowed R (.scalar a) (.scalar b))
    (onward : (Superset.mk t u allowNarrowing).Allowed Q (.scalar b) (.scalar c)) :
    (Superset.mk s u allowNarrowing).Allowed (Relation.Comp R Q) (.scalar a) (.scalar c) := by
  obtain ⟨_, same, rfl | ⟨first, found, tolerated⟩⟩ := there.of_scalar
  · obtain rfl := FieldType.scalar.inj same
    exact onward
  obtain ⟨_, sameOn, rfl | ⟨second, foundOn, toleratedOn⟩⟩ := onward.of_scalar
  · obtain rfl := FieldType.scalar.inj sameOn
    exact there
  obtain rfl := FieldType.scalar.inj same
  obtain rfl := FieldType.scalar.inj sameOn
  rcases Conversion.find?_trans found foundOn with rfl | ⟨whole, composed, narrows⟩
  · exact .inl rfl
  · refine .inr ⟨whole, composed, ?_⟩
    intro isNarrow
    exact (narrows isNarrow).elim tolerated toleratedOn

theorem Allowed.trans {a b c : FieldType} (there : (Superset.mk s t allowNarrowing).Allowed R a b)
    (onward : (Superset.mk t u allowNarrowing).Allowed Q b c) :
    (Superset.mk s u allowNarrowing).Allowed (Relation.Comp R Q) a c := by
  cases a with
  | message x =>
      obtain ⟨y, rfl, related⟩ := there.of_message
      obtain ⟨z, rfl, relatedOn⟩ := onward.of_message
      exact ⟨y, related, relatedOn⟩
  | enum x =>
      obtain ⟨y, rfl, old, middle, atOld, atMiddle, kept⟩ := there.of_enum
      obtain ⟨z, rfl, _, new, sameMiddle, atNew, keptOn⟩ := onward.of_enum
      obtain rfl := Option.some.inj (atMiddle.symm.trans sameMiddle)
      refine ⟨old, new, atOld, atNew, ?_⟩
      intro v member
      obtain ⟨w, memberW, number⟩ := kept v member
      obtain ⟨x, memberX, numberOn⟩ := keptOn w memberW
      exact ⟨x, memberX, numberOn.trans number⟩
  | scalar old =>
      obtain ⟨middle, rfl, -⟩ := there.of_scalar
      obtain ⟨new, rfl, -⟩ := onward.of_scalar
      exact allowed_scalar_trans there onward
  | group x =>
      obtain rfl := there.of_group
      obtain rfl := onward.of_group
      exact .inl rfl

/-- Closed relations compose along three revisions. -/
theorem Closed.comp (closed : (Superset.mk s t allowNarrowing).Closed R)
    (closedOn : (Superset.mk t u allowNarrowing).Closed Q) :
    (Superset.mk s u allowNarrowing).Closed (Relation.Comp R Q) := by
  rintro x z ⟨y, related, relatedOn⟩
  obtain ⟨old, middle, atOld, atMiddle, covers⟩ := closed x y related
  obtain ⟨_, new, sameMiddle, atNew, coversOn⟩ := closedOn y z relatedOn
  obtain rfl := Option.some.inj (atMiddle.symm.trans sameMiddle)
  refine ⟨old, new, atOld, atNew, ?_⟩
  intro f member
  obtain ⟨g, memberG, number, repeats, allowed⟩ := covers f member
  obtain ⟨h, memberH, numberOn, repeatsOn, allowedOn⟩ := coversOn g memberG
  exact ⟨h, memberH, numberOn.trans number, repeats.trans repeatsOn, allowed.trans allowedOn⟩

theorem StandsIn.trans {a b c : String} (there : (Superset.mk s t allowNarrowing).StandsIn a b)
    (onward : (Superset.mk t u allowNarrowing).StandsIn b c) :
    (Superset.mk s u allowNarrowing).StandsIn a c := by
  obtain ⟨R, closed, related⟩ := there
  obtain ⟨Q, closedOn, relatedOn⟩ := onward
  exact ⟨_, closed.comp closedOn, b, related, relatedOn⟩

end Composition

/-- To stand in for a message, as fresh checks decide it, is a preorder over revisions: it holds of
    each message of a snapshot and itself, and it passes on from revision to revision. -/
theorem messages_refl_and_trans (allowNarrowing : Bool) :
    (∀ s : Snapshot, s.IsBuilt → ∀ a m, s.message? a = some m →
      ((Superset.mk s s allowNarrowing).messages [] a a).1 = .ok true) ∧
    ∀ s t u : Snapshot, s.IsBuilt → t.IsBuilt → u.IsBuilt → ∀ a b c,
      ((Superset.mk s t allowNarrowing).messages [] a b).1 = .ok true →
      ((Superset.mk t u allowNarrowing).messages [] b c).1 = .ok true →
      ((Superset.mk s u allowNarrowing).messages [] a c).1 = .ok true := by
  constructor
  · intro s built a m found
    exact (messages_eq_ok_true_iff built.valid .fresh).mpr
      ⟨Itself s, closed_itself built.valid, rfl, m, found⟩
  · intro s t u _ builtT builtU a b c there onward
    have standsIn := (messages_eq_ok_true_iff builtT.valid .fresh).mp there
    have standsInOn := (messages_eq_ok_true_iff builtU.valid .fresh).mp onward
    exact (messages_eq_ok_true_iff builtU.valid .fresh).mpr (standsIn.trans standsInOn)

/-- A tree in which each node knows how many nodes it has. -/
def tree (name : String) (size : Scalar) : MessageType :=
  ⟨name, .proto3, [⟨1, "children", .message name, .repeated, false, none⟩,
    ⟨2, "size", .scalar size, .singular, false, none⟩], .none⟩

def trees (label name : String) (size : Scalar) : Snapshot :=
  ⟨label, none, [.message (tree name size)]⟩

theorem message?_trees {label name : String} {size : Scalar} :
    (trees label name size).message? name = some (tree name size) := by
  simp [Snapshot.message?, Snapshot.get?, trees, tree, TypeDef.name, TypeDef.message?]

theorem standsIn_trees {label labelOn name other : String} {old new : Scalar}
    {conversion : Conversion} (found : Conversion.find? old new = some conversion)
    (lossless : conversion ≠ .narrowing) :
    (Superset.mk (trees label name old) (trees labelOn other new) false).StandsIn name other := by
  refine ⟨fun x y => x = name ∧ y = other, ?_, rfl, rfl⟩
  rintro _ _ ⟨rfl, rfl⟩
  refine ⟨_, _, message?_trees, message?_trees, ?_⟩
  simp only [Covers, tree, List.forall_mem_cons, List.not_mem_nil, false_implies, implies_true,
    and_true]
  refine ⟨⟨_, List.mem_cons_self, rfl, rfl, rfl, rfl⟩, ?_⟩
  refine ⟨_, List.mem_cons_of_mem _ List.mem_cons_self, rfl, rfl, .inr ⟨conversion, found, ?_⟩⟩
  exact fun narrows => absurd narrows lossless

/-- Trees grow new names and wider sizes, and the last of them stands in for the first. -/
theorem oak_stands_in_for_seedling :
    ((Superset.mk (trees "1.0" "acme.Seedling" .int32) (trees "1.0" "acme.Seedling" .int32)
      false).messages [] "acme.Seedling" "acme.Seedling").1 = .ok true ∧
    ((Superset.mk (trees "1.0" "acme.Seedling" .int32) (trees "3.0" "acme.Oak" .uint64)
      false).messages [] "acme.Seedling" "acme.Oak").1 = .ok true := by
  have seedling : (trees "1.0" "acme.Seedling" .int32).IsBuilt :=
    ⟨⟨"1.0", none, [.message (tree "acme.Seedling" .int32)]⟩, by decide +kernel⟩
  have sapling : (trees "2.0" "acme.Sapling" .int64).IsBuilt :=
    ⟨⟨"2.0", none, [.message (tree "acme.Sapling" .int64)]⟩, by decide +kernel⟩
  have oak : (trees "3.0" "acme.Oak" .uint64).IsBuilt :=
    ⟨⟨"3.0", none, [.message (tree "acme.Oak" .uint64)]⟩, by decide +kernel⟩
  obtain ⟨refl, trans⟩ := messages_refl_and_trans false
  refine ⟨refl _ seedling _ _ message?_trees, trans _ _ _ seedling sapling oak _ "acme.Sapling" _
    ?_ ?_⟩
  · have widens : Conversion.find? .int32 .int64 = some .widening := rfl
    exact (messages_eq_ok_true_iff sapling.valid .fresh).mpr (standsIn_trees widens (by decide))
  · have keepsBits : Conversion.find? .int64 .uint64 = some .reinterpreting := rfl
    exact (messages_eq_ok_true_iff oak.valid .fresh).mpr (standsIn_trees keepsBits (by decide))

end Superset

end SchemaEvolution
