import SchemaEvolution.Proofs.Check.Escalation
import SchemaEvolution.Proofs.Rule.Extension

/-! # Reports beside unchanged types

Types that are added to both sides alike do not change what a run says of the others.  Nothing
happens to them (`events_of_added`), and the rules reach nothing of them from what does happen
(`rawFindings_of_extended`).  They show in a report where they embed a type that a breaking finding
is about, and nowhere else.  Main statement: `unchanged_types_are_irrelevant`.
-/

namespace SchemaEvolution

/-- How a finding comes out of a run beside more types: at most some of these are affected too. -/
structure Finding.WidensTo (added : List TypeDef) (f g : Finding) : Prop where
  same : g = { f with affected := g.affected }
  affected : g.affected.filter (spares added) = f.affected

/-- How the report of a run has to agree with that of a run beside more types. -/
structure Report.WidensTo (added : List TypeDef) (before after : Report) : Prop where
  verdict : after.verdict = before.verdict
  complete : after.complete = before.complete
  stats : after.stats = before.stats
  requiredBump : after.requiredBump = before.requiredBump
  versionCheck : after.versionCheck = before.versionCheck
  findings : List.Forall₂ (Finding.WidensTo added) before.findings after.findings

section Idle

variable {α β : Type} {p : α → Bool} {as : List α}

theorem flatMap_filter_of_nil {f : α → List β} (idle : ∀ a ∈ as, p a = false → f a = []) :
    (as.filter p).flatMap f = as.flatMap f := by
  induction as with
  | nil => rfl
  | cons a rest ih =>
      obtain ⟨here, later⟩ := List.forall_mem_cons.mp idle
      cases kept : p a with
      | true => rw [List.filter_cons_of_pos kept, List.flatMap_cons, List.flatMap_cons, ih later]
      | false =>
          rw [List.filter_cons_of_neg (by simp [kept]), List.flatMap_cons, here kept, ih later]
          rfl

theorem sum_map_filter_of_zero [AddMonoid β] {f : α → β}
    (idle : ∀ a ∈ as, p a = false → f a = 0) : ((as.filter p).map f).sum = (as.map f).sum := by
  induction as with
  | nil => rfl
  | cons a rest ih =>
      obtain ⟨here, later⟩ := List.forall_mem_cons.mp idle
      cases kept : p a with
      | true => simp only [List.filter_cons_of_pos kept, List.map_cons, List.sum_cons, ih later]
      | false =>
          rw [List.filter_cons_of_neg (by simp [kept]), List.map_cons, List.sum_cons, here kept,
            zero_add, ih later]

end Idle

/-- No event leads from a definition to itself. -/
theorem ChangeEvent.ofTypes_self {s : Snapshot} (valid : s.Valid) {u : TypeDef}
    (member : u ∈ s.types) : ofTypes (some u) (some u) = [] := by
  have nothing := (happens_nothing_iff valid valid).mpr (.refl s)
  rw [List.eq_nil_iff_forall_not_mem]
  intro event emitted
  refine nothing u.name event ((happens_iff_mem_ofTypes valid valid).mpr ?_)
  rwa [valid.get?_of_mem member rfl]

section Extended

variable {base base' candidate candidate' : Snapshot} {added : List TypeDef}
  (extendedBase : base.ExtendedBy added base')
  (extendedCandidate : candidate.ExtendedBy added candidate')
include extendedBase extendedCandidate

/-- The names of the old types are left, in their order, if those of added ones are taken away. -/
theorem TypePair.filter_all :
    (TypePair.all base' candidate').filter (fun pair => spares added pair.name) =
      TypePair.all base candidate := by
  have names : (Sorted.sortDistinct nameBefore (base'.names ++ candidate'.names)).filter
      (spares added) = Sorted.sortDistinct nameBefore (base.names ++ candidate.names) := by
    refine Sorted.eq_of_mem_iff nameBefore_isStrictOrder
      ((Sorted.pairwise_sortDistinct nameBefore_isStrictOrder _).filter _)
      (Sorted.pairwise_sortDistinct nameBefore_isStrictOrder _) ?_
    intro name
    rw [List.mem_filter, Sorted.mem_sortDistinct nameBefore_isStrictOrder,
      Sorted.mem_sortDistinct nameBefore_isStrictOrder, ← List.mem_filter, List.filter_append,
      extendedBase.filter_names, extendedCandidate.filter_names]
  rw [all, all, List.filter_map, ← names]
  refine List.map_congr_left fun name member => ?_
  have spared : spares added name = true := (List.mem_filter.mp member).2
  rw [extendedBase.get?_eq spared, extendedCandidate.get?_eq spared]

/-- Nothing happens to a type that was added to both sides. -/
theorem TypePair.events_of_added {pair : TypePair} (member : pair ∈ TypePair.all base' candidate')
    (new : spares added pair.name = false) : (TypeDiff.of pair).events = [] := by
  obtain ⟨atBase, atCandidate, -⟩ := mem_all_iff.mp member
  obtain ⟨u, inside, named⟩ : ∃ u ∈ added, u.name = pair.name := by
    rw [← Bool.not_eq_true, spares_iff] at new
    push Not at new
    exact new
  rw [← named, extendedBase.get?_added inside] at atBase
  rw [← named, extendedCandidate.get?_added inside] at atCandidate
  rw [TypeDiff.of, atBase, atCandidate]
  exact ChangeEvent.ofTypes_self extendedBase.validWhole (extendedBase.mem_iff.mpr (.inr inside))

theorem Finding.widensTo_annotate {f : Finding} (spared : spares added f.typeName = true)
    (plain : f.affected = []) :
    WidensTo added (f.annotate base candidate) (f.annotate base' candidate') := by
  unfold annotate
  split
  case isFalse => exact ⟨rfl, by rw [plain]; rfl⟩
  case isTrue =>
    refine ⟨rfl, ?_⟩
    dsimp only
    rw [extendedCandidate.has_eq spared]
    split
    · exact extendedCandidate.filter_embedders spared
    · exact extendedBase.filter_embedders spared

namespace Registry

variable {r : Registry}

theorem evaluate_of_extended {pair : TypePair} (member : pair ∈ TypePair.all base candidate) :
    r.evaluate base' candidate' (.of pair) = r.evaluate base candidate (.of pair) := by
  refine List.flatMap_congr fun event emitted => List.filterMap_congr fun id _ => ?_
  have happens := (happens_iff_mem_events extendedBase.valid extendedCandidate.valid).mpr
    ⟨pair, member, rfl, emitted⟩
  rw [findingOf, findingOf, RuleId.check_of_extended extendedBase extendedCandidate happens]

/-- The rules find the same, and in the same order. -/
theorem rawFindings_of_extended :
    r.rawFindings base' candidate' = r.rawFindings base candidate := by
  have idle : ∀ pair ∈ TypePair.all base' candidate', spares added pair.name = false →
      r.evaluate base' candidate' (.of pair) = [] := by
    intro pair member new
    rw [evaluate, TypePair.events_of_added extendedBase extendedCandidate member new]
    rfl
  rw [rawFindings, ← flatMap_filter_of_nil idle,
    TypePair.filter_all extendedBase extendedCandidate, rawFindings]
  exact List.flatMap_congr fun pair member =>
    evaluate_of_extended extendedBase extendedCandidate member

theorem stats_of_extended (generatedAt : Timestamp) :
    (r.check base' candidate' generatedAt).stats =
      (r.check base candidate generatedAt).stats := by
  have idle : ∀ pair ∈ TypePair.all base' candidate', spares added pair.name = false →
      (TypeDiff.of pair).stats = 0 := by
    intro pair member new
    rw [TypeDiff.stats, TypePair.events_of_added extendedBase extendedCandidate member new]
    rfl
  rw [check_stats, check_stats, DiffStats.sum_eq, DiffStats.sum_eq, ← sum_map_filter_of_zero idle,
    TypePair.filter_all extendedBase extendedCandidate]

theorem findings_of_extended (distinct : r.rules.Nodup) (generatedAt : Timestamp) :
    List.Forall₂ (Finding.WidensTo added) (r.check base candidate generatedAt).findings
      (r.check base' candidate' generatedAt).findings := by
  rw [check_findings, check_findings, rawFindings_of_extended extendedBase extendedCandidate,
    List.forall₂_map_left_iff, List.forall₂_map_right_iff, List.forall₂_same]
  intro g kept
  have graded := (Finding.consolidate_perm r.settings.treatAdvisoryAsError
    (nodup_key_rawFindings distinct extendedBase.valid extendedCandidate.valid)).mem_iff.mp kept
  obtain ⟨f, found, rfl⟩ := List.mem_map.mp graded
  obtain ⟨pair, member, found⟩ := List.mem_flatMap.mp found
  obtain ⟨-, -, known⟩ := TypePair.mem_all_iff.mp member
  refine Finding.widensTo_annotate extendedBase extendedCandidate ?_ ?_
  · rw [Finding.typeName_grade, typeName_of_mem_evaluate found]
    exact known.elim extendedBase.spares_of_mem_names extendedCandidate.spares_of_mem_names
  · rw [Finding.affected_grade, affected_of_mem_evaluate found]

theorem check_widens (distinct : r.rules.Nodup) (generatedAt : Timestamp) :
    (r.check base candidate generatedAt).WidensTo added
      (r.check base' candidate' generatedAt) := by
  have findings := findings_of_extended extendedBase extendedCandidate distinct generatedAt
  have stats := stats_of_extended (r := r) extendedBase extendedCandidate generatedAt
  have bump : (r.check base' candidate' generatedAt).requiredBump =
      (r.check base candidate generatedAt).requiredBump := by
    rw [check_requiredBump_eq distinct extendedBase.validWhole extendedCandidate.validWhole,
      check_requiredBump_eq distinct extendedBase.valid extendedCandidate.valid, stats,
      rawFindings_of_extended extendedBase extendedCandidate]
  have grades : (r.check base candidate generatedAt).findings.map Finding.isBreaking =
      (r.check base' candidate' generatedAt).findings.map Finding.isBreaking :=
    map_eq_of_forall₂ (findings.imp fun f g widens => by rw [widens.same]; rfl)
  have breaking : (r.check base' candidate' generatedAt).findings.any Finding.isBreaking =
      (r.check base candidate generatedAt).findings.any Finding.isBreaking := by
    have anyOf := congrArg (List.any · id) grades
    simpa using anyOf.symm
  refine ⟨?_, ?_, stats, bump, ?_, findings⟩
  · rw [check_verdict, check_verdict, breaking]
  · rw [check_complete, check_complete]
  · rw [check_versionCheck, check_versionCheck, bump, extendedBase.version,
      extendedCandidate.version]

end Registry

end Extended

/-- If types are pushed on both sides and both are still built, so that none of them has a name that
    either side had, a run reports the same as without them, but that some of them may be listed
    among the types that a breaking finding affects. -/
theorem unchanged_types_are_irrelevant {d e : Draft} {base candidate : Snapshot}
    (builtBase : d.build = .ok base) (builtCandidate : e.build = .ok candidate)
    {added : List TypeDef} {base' candidate' : Snapshot}
    (wholeBase : (d.add added).build = .ok base')
    (wholeCandidate : (e.add added).build = .ok candidate') {settings : Settings}
    (valid : settings.validate = .ok ()) :
    ∃ r, Registry.ofSettings settings = .ok r ∧ ∀ generatedAt,
      (r.check base candidate generatedAt).WidensTo added
        (r.check base' candidate' generatedAt) := by
  obtain ⟨r, ok⟩ := Registry.exists_ofSettings valid
  exact ⟨r, ok, Registry.check_widens (Draft.extendedBy_of_build builtBase wholeBase)
    (Draft.extendedBy_of_build builtCandidate wholeCandidate) (Registry.nodup_rules ok)⟩

/-- Orders under a key of some type. -/
def order (key : Scalar) : TypeDef :=
  .message ⟨"acme.Order", .proto3, [⟨1, "key", .scalar key, .singular, false, none⟩], .none⟩

def shopBefore : Draft :=
  { label := "before", types := [order .int32, .message ⟨"acme.Coupon", .proto3, [], .none⟩] }

/-- The shop with keys that are texts and without coupons. -/
def shopAfter : Draft := { label := "after", types := [order .string] }

/-- Carts of orders, and a type whose name is much like that of coupons. -/
def carts : List TypeDef := [
  .message ⟨"acme.Coupons", .proto3, [], .none⟩,
  .message ⟨"acme.Cart", .proto3, [
    ⟨1, "orders", .message "acme.Order", .repeated, false, none⟩,
    ⟨2, "coupons", .message "acme.Coupons", .singular, false, none⟩], .none⟩]

/-- Carts are affected by the new keys, and the coupons were not renamed to what was there before. -/
theorem carts_are_affected :
    ∃ r, Registry.ofSettings {} = .ok r ∧
      (r.check shopBefore.ordered shopAfter.ordered .epoch).WidensTo carts
        (r.check (shopBefore.add carts).ordered (shopAfter.add carts).ordered .epoch) ∧
      (r.check shopBefore.ordered shopAfter.ordered .epoch).findings.map Finding.affected =
        [[], []] ∧
      (r.check (shopBefore.add carts).ordered (shopAfter.add carts).ordered
        .epoch).findings.map Finding.affected = [["acme.Cart"], []] := by
  have builtBase : shopBefore.build = .ok shopBefore.ordered := by decide +kernel
  have builtCandidate : shopAfter.build = .ok shopAfter.ordered := by decide +kernel
  have wholeBase : (shopBefore.add carts).build = .ok (shopBefore.add carts).ordered := by
    decide +kernel
  have wholeCandidate : (shopAfter.add carts).build = .ok (shopAfter.add carts).ordered := by
    decide +kernel
  have valid : ({} : Settings).validate = .ok () := by rfl
  obtain ⟨r, ok, widens⟩ := unchanged_types_are_irrelevant builtBase builtCandidate wholeBase
    wholeCandidate valid
  obtain rfl := Except.ok.inj (Registry.ofSettings_default.symm.trans ok)
  exact ⟨_, ok, widens .epoch, by decide +kernel, by decide +kernel⟩

end SchemaEvolution
