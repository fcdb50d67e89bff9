import SchemaEvolution.Proofs.Schema.Built
import SchemaEvolution.Proofs.Wire.Comparison
import SchemaEvolution.Wire.Superset

/-! # What the superset check decides

A relation on message names that keeps its promises is `Closed`: whenever it holds of two names,
every field of the old message has a counterpart in the new one, of a type that the relation again
allows.  The union of all closed relations, `StandsIn`, is the greatest one.  A check whose calls
have all succeeded has seen pairs that form a closed relation (`Succeeded.closed`), and demands
that `StandsIn` meets are never refused (`run_of_standsIn`), so the two meet.
-/

namespace SchemaEvolution

namespace Superset

/-- What the types of two fields under one tag may be, given which messages may stand in for which.
    References are judged by what they refer to, even where their names are equal. -/
def Allowed (s : Superset) (R : String → String → Prop) : FieldType → FieldType → Prop
  | .message a, .message b => R a b
  | .enum a, .enum b => ∃ old new, s.base.enum? a = some old ∧ s.candidate.enum? b = some new ∧
      ∀ v ∈ old.values, ∃ w ∈ new.values, w.number = v.number
  | t, u => t = u ∨ ∃ conversion, t.conversion? u = some conversion ∧
      (conversion = .narrowing → s.allowNarrowing = true)

/-- Whether every field of a message has a counterpart under its tag, both or neither repeated, of
    a type that is allowed. -/
def Covers (allowed : FieldType → FieldType → Prop) (old new : MessageType) : Prop :=
  ∀ f ∈ old.fields, ∃ g ∈ new.fields, g.number = f.number ∧
    f.cardinality.isRepeated = g.cardinality.isRepeated ∧ allowed f.type g.type

/-- Whether a relation on message names promises only what the two messages keep. -/
def Respects (s : Superset)
    (allowed : (String → String → Prop) → FieldType → FieldType → Prop)
    (R : String → String → Prop) : Prop :=
  ∀ x y, R x y → ∃ old new, s.base.message? x = some old ∧ s.candidate.message? y = some new ∧
    Covers (allowed R) old new

/-- A relation that respects what types are allowed. -/
def Closed (s : Superset) (R : String → String → Prop) : Prop := s.Respects s.Allowed R

/-- The union of all closed relations. -/
def StandsIn (s : Superset) (a b : String) : Prop := ∃ R, s.Closed R ∧ R a b

/-- Whether a demand is met, given which messages may stand in for which. -/
def Meets (s : Superset) (R : String → String → Prop) : Demand → Prop
  | none => False
  | some (t, u) => s.Allowed R t u

variable {s : Superset} {R Q : String → String → Prop}

theorem Allowed.mono (weaker : ∀ a b, R a b → Q a b) {t u : FieldType} (allowed : s.Allowed R t u) :
    s.Allowed Q t u := by
  cases t <;> cases u
  case message.message a b => exact weaker a b allowed
  all_goals exact allowed

theorem Covers.mono {old new : MessageType} (weaker : ∀ a b, R a b → Q a b)
    (covers : Covers (s.Allowed R) old new) : Covers (s.Allowed Q) old new := by
  intro f member
  obtain ⟨g, counterpart, number, repeats, allowed⟩ := covers f member
  exact ⟨g, counterpart, number, repeats, allowed.mono weaker⟩

theorem closed_standsIn : s.Closed s.StandsIn := by
  rintro x y ⟨R, closed, related⟩
  obtain ⟨old, new, atBase, atCandidate, covers⟩ := closed x y related
  exact ⟨old, new, atBase, atCandidate, covers.mono fun a b inR => ⟨R, closed, inR⟩⟩

/-- The union of all closed relations is the greatest of them. -/
theorem isGreatest_standsIn : IsGreatest {R | s.Closed R} s.StandsIn :=
  ⟨closed_standsIn, fun R closed _ _ related => ⟨R, closed, related⟩⟩

theorem enums_eq_ok_true_iff {a b : String} :
    s.enums a b = .ok true ↔ s.Allowed R (.enum a) (.enum b) := by
  simp only [enums, Allowed]
  cases atBase : s.base.enum? a with
  | none => simp
  | some old =>
      cases atCandidate : s.candidate.enum? b with
      | none => simp
      | some new => simp [coversValues, EnumType.value?]

/-- Two references of one kind aside, types are judged by the table of conversions. -/
theorem leaf_eq_of_compare {t u : FieldType} (leaf : ∀ a b, t = .enum a → u = .enum b → False) :
    s.leaf t u = (t.compare u).map fun comparison =>
      match comparison with
      | .same => true
      | .convertible conversion => conversion != .narrowing || s.allowNarrowing
      | .structural | .incompatible => false := by
  unfold Superset.leaf
  split
  case h_1 a b => exact (leaf a b rfl rfl).elim
  case h_2 =>
    cases t.compare u with
    | error fault => rfl
    | ok comparison =>
        cases comparison with
        | convertible conversion => cases conversion <;> rfl
        | _ => rfl

/-- Types other than two messages are judged at once. -/
theorem leaf_eq_ok_true_iff {t u : FieldType}
    (leaf : ∀ a b, t = .message a → u = .message b → False) :
    s.leaf t u = .ok true ↔ s.Allowed R t u := by
  by_cases enums : ∃ a b, t = .enum a ∧ u = .enum b
  · obtain ⟨a, b, rfl, rfl⟩ := enums
    exact enums_eq_ok_true_iff
  have notEnums : ∀ a b, t = .enum a → u = .enum b → False :=
    fun a b isT isU => enums ⟨a, b, isT, isU⟩
  have allowed : s.Allowed R t u ↔ t = u ∨ ∃ conversion, t.conversion? u = some conversion ∧
      (conversion = .narrowing → s.allowNarrowing = true) := by
    cases t <;> cases u
    case message.message => exact (leaf _ _ rfl rfl).elim
    case enum.enum => exact (notEnums _ _ rfl rfl).elim
    all_goals exact Iff.rfl
  rw [leaf_eq_of_compare notEnums, allowed]
  by_cases same : t = u
  · simp [FieldType.compare, same, Except.map]
  by_cases group : (t.isGroup || u.isGroup) = true
  · simp [FieldType.compare, same, group, Except.map, FieldType.conversion?_of_isGroup group]
  by_cases family : t.sameFamily u = true
  · simp [FieldType.compare, same, group, family, Except.map,
      FieldType.conversion?_of_sameFamily same family]
  · cases converts : t.conversion? u with
    | none => simp [FieldType.compare, same, group, family, Except.map, converts]
    | some conversion =>
        cases conversion <;> simp [FieldType.compare, same, group, family, Except.map, converts]

theorem messagePair_eq_ok_iff {a b : String} {old new : MessageType} :
    s.messagePair a b = .ok (old, new) ↔
      s.base.message? a = some old ∧ s.candidate.message? b = some new := by
  unfold messagePair
  cases s.base.message? a <;> cases s.candidate.message? b <;> simp

/-- Every field has a counterpart exactly if what the old message demands of the new one is met. -/
theorem forall_demands_iff {old new : MessageType}
    (sound : Member.Sound new.reserved new.fields) :
    (∀ d ∈ demands old new, s.Meets R d) ↔ Covers (s.Allowed R) old new := by
  simp only [demands, List.forall_mem_map, Covers]
  refine forall₂_congr fun f _ => ?_
  unfold demand
  cases found : new.field? f.number with
  | none =>
      have gone := List.find?_eq_none.mp found
      simp only [Meets, false_iff, not_exists, not_and]
      intro g member number
      exact absurd (beq_iff_eq.mpr number) (gone g member)
  | some g =>
      have member := List.mem_of_find?_eq_some found
      have number : g.number = f.number := by simpa using List.find?_some found
      by_cases repeats : f.cardinality.isRepeated = g.cardinality.isRepeated
      · simp only [repeats, ↓reduceIte, Meets]
        constructor
        · intro allowed
          exact ⟨g, member, number, rfl, allowed⟩
        · rintro ⟨h, memberH, numberH, -, allowed⟩
          rwa [sound.eq_of_number memberH member (congrArg Int.ofNat (numberH.trans number.symm))]
            at allowed
      · simp only [repeats, ↓reduceIte, Meets, false_iff, not_exists, not_and]
        intro h memberH numberH same
        rw [sound.eq_of_number memberH member (congrArg Int.ofNat (numberH.trans number.symm))]
          at same
        exact absurd same repeats

/-- A pair that was seen. -/
def Seen (visited : List (String × String)) (a b : String) : Prop := (a, b) ∈ visited

/-- What a walk that succeeds leaves behind: it forgets no pair, and it has expanded the pairs that
    it added, with demands that the pairs it has seen meet. -/
structure Justifies (s : Superset) (visited seen : List (String × String)) : Prop where
  kept : visited ⊆ seen
  expanded : ∀ a b, (a, b) ∈ seen → (a, b) ∉ visited →
    ∃ old new, s.messagePair a b = .ok (old, new) ∧ ∀ d ∈ demands old new, s.Meets (Seen seen) d

theorem run_message {visited : List (String × String)} {a b : String} {old new : MessageType}
    {rest : List Demand} (fresh : (a, b) ∉ visited) (found : s.messagePair a b = .ok (old, new)) :
    s.run visited (some (.message a, .message b) :: rest) =
      s.run ((a, b) :: visited) (demands old new ++ rest) := by
  rw [run, dif_neg (by simpa using fresh)]
  split
  case h_1 fault missing =>
    rw [found] at missing
    cases missing
  case h_2 _ _ same =>
    rw [found] at same
    cases same
    rfl

/-- A walk that succeeds has met every demand, if the pairs that it has seen may be relied on. -/
theorem run_ok {visited : List (String × String)} {todo : List Demand}
    (ok : (s.run visited todo).1 = .ok true) :
    s.Justifies visited (s.run visited todo).2 ∧
      ∀ d ∈ todo, s.Meets (Seen (s.run visited todo).2) d := by
  fun_induction Superset.run s visited todo with
  | case1 visited =>
      exact ⟨⟨List.Subset.refl _, fun a b inside outside => absurd inside outside⟩, by simp⟩
  | case2 => cases ok
  | case3 visited a b rest seen ih =>
      obtain ⟨justifies, met⟩ := ih ok
      refine ⟨justifies, List.forall_mem_cons.mpr ⟨?_, met⟩⟩
      exact justifies.kept (by simpa using seen)
  | case4 => cases ok
  | case5 visited a b rest fresh old new found ih =>
      obtain ⟨justifies, met⟩ := ih ok
      obtain ⟨metDemands, metRest⟩ := List.forall_mem_append.mp met
      refine ⟨⟨fun p member => justifies.kept (List.mem_cons_of_mem _ member), ?_⟩,
        List.forall_mem_cons.mpr ⟨justifies.kept List.mem_cons_self, metRest⟩⟩
      intro x y inside outside
      by_cases here : (x, y) = (a, b)
      · cases here
        exact ⟨old, new, found, metDemands⟩
      · exact justifies.expanded x y inside (by simp [here, outside])
  | case6 visited t u rest leaf judged ih =>
      obtain ⟨justifies, met⟩ := ih ok
      exact ⟨justifies, List.forall_mem_cons.mpr ⟨(leaf_eq_ok_true_iff leaf).mp judged, met⟩⟩
  | case7 visited t u rest leaf judged => exact (judged ok).elim

/-- A walk refuses nothing that some closed relation meets, whatever it has seen before. -/
theorem run_of_closed (sound : s.candidate.Valid) (closed : s.Closed R)
    {visited : List (String × String)} {todo : List Demand} (met : ∀ d ∈ todo, s.Meets R d) :
    (s.run visited todo).1 = .ok true := by
  fun_induction Superset.run s visited todo with
  | case1 => rfl
  | case2 visited rest => exact (met none List.mem_cons_self).elim
  | case3 visited a b rest seen ih => exact ih fun d member => met d (List.mem_cons_of_mem _ member)
  | case4 visited a b rest fresh fault missing =>
      obtain ⟨old, new, atBase, atCandidate, -⟩ := closed a b (met _ List.mem_cons_self)
      rw [messagePair_eq_ok_iff.mpr ⟨atBase, atCandidate⟩] at missing
      cases missing
  | case5 visited a b rest fresh old new found ih =>
      obtain ⟨atBase, atCandidate⟩ := messagePair_eq_ok_iff.mp found
      obtain ⟨_, _, foundOld, foundNew, fields⟩ := closed a b (met _ List.mem_cons_self)
      obtain rfl := Option.some.inj (atBase.symm.trans foundOld)
      obtain rfl := Option.some.inj (atCandidate.symm.trans foundNew)
      refine ih (List.forall_mem_append.mpr ⟨?_, ?_⟩)
      · exact (forall_demands_iff (sound.of_message? atCandidate).sound).mpr fields
      · exact fun d member => met d (List.mem_cons_of_mem _ member)
  | case6 visited t u rest leaf judged ih =>
      exact ih fun d member => met d (List.mem_cons_of_mem _ member)
  | case7 visited t u rest leaf judged =>
      exact (judged ((leaf_eq_ok_true_iff leaf).mpr (met _ List.mem_cons_self))).elim

/-- A walk that succeeds leaves a closed relation behind if it found one. -/
theorem Justifies.closed {visited seen : List (String × String)}
    (justifies : s.Justifies visited seen) (sound : s.candidate.Valid)
    (before : s.Closed (Seen visited)) : s.Closed (Seen seen) := by
  intro x y inside
  by_cases old : (x, y) ∈ visited
  · obtain ⟨old, new, atBase, atCandidate, covers⟩ := before x y old
    exact ⟨old, new, atBase, atCandidate, covers.mono fun a b earlier => justifies.kept earlier⟩
  · obtain ⟨old, new, found, met⟩ := justifies.expanded x y inside old
    obtain ⟨atBase, atCandidate⟩ := messagePair_eq_ok_iff.mp found
    exact ⟨old, new, atBase, atCandidate,
      (forall_demands_iff (sound.of_message? atCandidate).sound).mp met⟩

/-- The pairs that a check has seen whose calls have all succeeded. -/
inductive Succeeded (s : Superset) : List (String × String) → Prop
  | fresh : s.Succeeded []
  | messages {visited : List (String × String)} {a b : String} (earlier : s.Succeeded visited)
      (ok : (s.messages visited a b).1 = .ok true) : s.Succeeded (s.messages visited a b).2
  | references {visited : List (String × String)} {t u : FieldType}
      (earlier : s.Succeeded visited) (ok : (s.references visited t u).1 = .ok true) :
      s.Succeeded (s.references visited t u).2

/-- What such a check has seen is a closed relation. -/
theorem Succeeded.closed (sound : s.candidate.Valid) {visited : List (String × String)}
    (succeeded : s.Succeeded visited) : s.Closed (Seen visited) := by
  induction succeeded with
  | fresh =>
      intro x y inside
      cases inside
  | messages _ ok ih => exact (run_ok ok).1.closed sound ih
  | references _ ok ih =>
      unfold Superset.references at ok ⊢
      split at ok
      · exact (run_ok ok).1.closed sound ih
      · exact ih
      · cases ok

/-- Each pair is expanded once, so a walk ends after at most as many expansions as there are pairs
    of names, and one more for a name that is missing. -/
theorem exists_added_by_run (visited : List (String × String)) (todo : List Demand) :
    ∃ added, (s.run visited todo).2 = added ++ visited ∧ added.Nodup ∧
      (∀ p ∈ added, p ∉ visited) ∧ added.length ≤ s.unseen visited + 1 := by
  fun_induction Superset.run s visited todo with
  | case1 | case2 | case7 => exact ⟨[], rfl, List.nodup_nil, by simp, by simp⟩
  | case3 visited a b rest seen ih => exact ih
  | case4 visited a b rest fresh fault missing =>
      refine ⟨[(a, b)], rfl, List.nodup_singleton _, ?_, by simp⟩
      intro p member
      rw [List.mem_singleton.mp member]
      simpa using fresh
  | case5 visited a b rest fresh old new found ih =>
      obtain ⟨added, same, distinct, outside, few⟩ := ih
      obtain ⟨left, right⟩ := mem_names_of_messagePair found
      have smaller := unseen_cons_lt (by simpa using fresh) left right
      refine ⟨added ++ [(a, b)], ?_, ?_, ?_, ?_⟩
      · rw [same, List.append_assoc]
        rfl
      · rw [List.nodup_append]
        refine ⟨distinct, List.nodup_singleton _, ?_⟩
        rintro p member q last rfl
        exact outside p member (List.mem_singleton.mp last ▸ List.mem_cons_self)
      · intro p member
        rcases List.mem_append.mp member with member | last
        · exact fun inside => outside p member (List.mem_cons_of_mem _ inside)
        · rw [List.mem_singleton.mp last]
          simpa using fresh
      · rw [List.length_append, List.length_singleton]
        omega
  | case6 visited t u rest leaf judged ih => exact ih

theorem unseen_le (visited : List (String × String)) :
    s.unseen visited ≤ s.base.types.length * s.candidate.types.length := by
  unfold unseen
  refine le_trans List.countP_le_length (le_of_eq ?_)
  simp [Snapshot.names, List.length_flatMap, Function.comp_def]

/-- A check whose calls have all succeeded says yes to two messages exactly if the greatest closed
    relation holds of them; the walk expands no pair twice and only finitely many. -/
theorem messages_decides_greatest_closed {s : Superset} (built : s.candidate.IsBuilt)
    {visited : List (String × String)} (succeeded : s.Succeeded visited) (a b : String) :
    (∃ R, IsGreatest {R | s.Closed R} R ∧ ((s.messages visited a b).1 = .ok true ↔ R a b)) ∧
      ∃ added, (s.messages visited a b).2 = added ++ visited ∧ added.Nodup ∧
        (∀ p ∈ added, p ∉ visited) ∧
        added.length ≤ s.base.types.length * s.candidate.types.length + 1 := by
  refine ⟨⟨s.StandsIn, isGreatest_standsIn, ?_, ?_⟩, ?_⟩
  · intro ok
    have seen := (run_ok ok).2 _ (List.mem_singleton.mpr rfl)
    exact ⟨_, (succeeded.messages ok).closed built.valid, seen⟩
  · intro related
    refine run_of_closed built.valid closed_standsIn ?_
    intro d member
    rw [List.mem_singleton.mp member]
    exact related
  · obtain ⟨added, same, distinct, outside, few⟩ :=
      exists_added_by_run visited [some (.message a, .message b)]
    exact ⟨added, same, distinct, outside, le_trans few (Nat.succ_le_succ (unseen_le visited))⟩

/-- Nodes and edges that refer to each other, before and after edges got a weight. -/
def graphGrows : Superset where
  base := ⟨"before", none, [
    .message ⟨"acme.Edge", .proto3, [⟨1, "to", .message "acme.Node", .singular, false, none⟩],
      .none⟩,
    .message ⟨"acme.Node", .proto3, [⟨1, "out", .message "acme.Edge", .repeated, false, none⟩],
      .none⟩]⟩
  candidate := ⟨"after", none, [
    .message ⟨"acme.Edge", .proto3, [⟨1, "to", .message "acme.Node", .singular, false, none⟩,
      ⟨2, "weight", .scalar .double, .singular, false, none⟩], .none⟩,
    .message ⟨"acme.Node", .proto3, [⟨1, "out", .message "acme.Edge", .repeated, false, none⟩],
      .none⟩]⟩
  allowNarrowing := false

theorem grown_nodes_stand_in :
    (graphGrows.messages [] "acme.Node" "acme.Node").1 = .ok true := by
  have built : graphGrows.candidate.IsBuilt :=
    ⟨⟨"after", none, graphGrows.candidate.types⟩, by decide +kernel⟩
  have closed : graphGrows.Closed fun x y => x = y ∧ (x = "acme.Node" ∨ x = "acme.Edge") := by
    rintro x y ⟨rfl, rfl | rfl⟩
    · refine ⟨_, _, rfl, rfl, ?_⟩
      intro f member
      rw [List.mem_singleton.mp member]
      exact ⟨_, List.mem_cons_self, rfl, rfl, rfl, .inr rfl⟩
    · refine ⟨_, _, rfl, rfl, ?_⟩
      intro f member
      rw [List.mem_singleton.mp member]
      exact ⟨_, List.mem_cons_self, rfl, rfl, rfl, .inl rfl⟩
  obtain ⟨⟨R, greatest, decides⟩, -⟩ :=
    messages_decides_greatest_closed built .fresh "acme.Node" "acme.Node"
  exact decides.mpr (greatest.2 closed _ _ ⟨rfl, .inl rfl⟩)

/-- A message with an enum of which a color is gone. -/
def paletteShrinks : Superset where
  base := ⟨"before", none, [
    .message ⟨"acme.Car", .proto3, [⟨1, "color", .enum "acme.Color", .singular, false, none⟩],
      .none⟩,
    .enum ⟨"acme.Color", .proto3, [⟨0, "RED"⟩, ⟨1, "BLUE"⟩], .none⟩]⟩
  candidate := ⟨"after", none, [
    .message ⟨"acme.Car", .proto3, [⟨1, "color", .enum "acme.Color", .singular, false, none⟩],
      .none⟩,
    .enum ⟨"acme.Color", .proto3, [⟨0, "RED"⟩], .none⟩]⟩
  allowNarrowing := false

/-- Equal references are not enough: with them allowed, the greatest relation holds of a message
    that the check refuses. -/
theorem equal_references_are_not_enough :
    paletteShrinks.base.IsBuilt ∧ paletteShrinks.candidate.IsBuilt ∧
      (paletteShrinks.messages [] "acme.Car" "acme.Car").1 = .ok false ∧
      ¬ ∃ R, IsGreatest {R | paletteShrinks.Respects
          (fun R t u => t = u ∨ paletteShrinks.Allowed R t u) R} R ∧
        ((paletteShrinks.messages [] "acme.Car" "acme.Car").1 = .ok true ↔
          R "acme.Car" "acme.Car") := by
  have refused : (paletteShrinks.messages [] "acme.Car" "acme.Car").1 = .ok false := by
    have found : paletteShrinks.messagePair "acme.Car" "acme.Car" = .ok
        (⟨"acme.Car", .proto3, [⟨1, "color", .enum "acme.Color", .singular, false, none⟩], .none⟩,
          ⟨"acme.Car", .proto3, [⟨1, "color", .enum "acme.Color", .singular, false, none⟩],
            .none⟩) := by rfl
    have judged : paletteShrinks.leaf (.enum "acme.Color") (.enum "acme.Color") = .ok false := by
      rfl
    rw [messages, run_message List.not_mem_nil found]
    simp [demands, demand, MessageType.field?, run, judged]
  refine ⟨⟨⟨"before", none, paletteShrinks.base.types⟩, by decide +kernel⟩,
    ⟨⟨"after", none, paletteShrinks.candidate.types⟩, by decide +kernel⟩, refused, ?_⟩
  rintro ⟨R, greatest, decides⟩
  have loose : paletteShrinks.Respects (fun R t u => t = u ∨ paletteShrinks.Allowed R t u)
      fun x y => x = "acme.Car" ∧ y = "acme.Car" := by
    rintro x y ⟨rfl, rfl⟩
    refine ⟨_, _, rfl, rfl, ?_⟩
    intro f member
    exact ⟨f, member, rfl, rfl, .inl rfl⟩
  have accepted := decides.mpr (greatest.2 loose _ _ ⟨rfl, rfl⟩)
  rw [refused] at accepted
  cases accepted

end Superset

end SchemaEvolution
