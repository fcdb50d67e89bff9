import SchemaEvolution.Proofs.Config.Selection

/-! # Selecting and grading

What the texts of settings come to.  The rules that run are those that `Settings.selects` keeps, in
the order of all rules.  Decisions about one rule leave the grades of the others alone
(`SeverityTable.get_eq_of_others`).
-/

namespace SchemaEvolution

namespace RuleId

/-- Whether some of the texts names a rule. -/
def namedIn (texts : List String) (id : RuleId) : Bool :=
  texts.any fun text => find? text == some id

theorem read_eq_ok_iff {text : String} {id : RuleId} :
    read text = .ok id ↔ find? text = some id := by
  unfold read
  cases find? text <;> simp

theorem contains_of_mapM_read {texts : List String} {ids : List RuleId}
    (reads : texts.mapM read = .ok ids) (id : RuleId) : ids.contains id = namedIn texts id := by
  induction texts generalizing ids with
  | nil =>
      cases reads
      rfl
  | cons text rest ih =>
      rw [List.mapM_cons] at reads
      obtain ⟨first, readsFirst, reads⟩ := bind_eq_ok_iff.mp reads
      obtain ⟨others, readsRest, reads⟩ := bind_eq_ok_iff.mp reads
      cases reads
      have named : (find? text == some id) = (id == first) := by
        rw [read_eq_ok_iff.mp readsFirst, Option.some_beq_some, Bool.beq_comm]
      rw [List.contains_cons, ih readsRest, ← named]
      rfl

theorem isEmpty_of_mapM_read {texts : List String} {ids : List RuleId}
    (reads : texts.mapM read = .ok ids) : ids.isEmpty = texts.isEmpty := by
  cases texts with
  | nil =>
      cases reads
      rfl
  | cons text rest =>
      rw [List.mapM_cons] at reads
      obtain ⟨first, -, reads⟩ := bind_eq_ok_iff.mp reads
      obtain ⟨others, -, reads⟩ := bind_eq_ok_iff.mp reads
      cases reads
      rfl

end RuleId

namespace Settings

/-- Whether a rule runs: it is allowed, or every rule is, and it is not denied. -/
def selects (s : Settings) (id : RuleId) : Bool :=
  (s.ruleAllowlist.isEmpty || RuleId.namedIn s.ruleAllowlist id) &&
    !RuleId.namedIn s.ruleDenylist id

theorem rules_eq_filter {s : Settings} {rules : List RuleId} (selected : s.rules = .ok rules) :
    rules = RuleId.all.filter s.selects := by
  obtain ⟨allow, deny, readsAllow, readsDeny, rfl⟩ := rules_eq_ok_iff.mp selected
  refine List.filter_congr fun id _ => ?_
  rw [selects, RuleId.isEmpty_of_mapM_read readsAllow, RuleId.contains_of_mapM_read readsAllow,
    RuleId.contains_of_mapM_read readsDeny]

/-- Settings with both lists of rules emptied, so that every rule runs. -/
def selectingAll (s : Settings) : Settings := { s with ruleAllowlist := [], ruleDenylist := [] }

theorem validate_selectingAll {s : Settings} (valid : s.validate = .ok ()) :
    s.selectingAll.validate = .ok () := by
  obtain ⟨threshold, workers, readable⟩ := validate_eq_ok_iff.mp valid
  refine validate_eq_ok_iff.mpr ⟨threshold, workers, fun text member => readable text ?_⟩
  exact List.mem_append_right _ member

end Settings

namespace SeverityTable

/-- The rules that decisions are about, with the grades that they give. -/
def decided (decisions : List (String × Severity)) : List (RuleId × Severity) :=
  decisions.filterMap fun decision => (RuleId.find? decision.1).map (·, decision.2)

theorem decisions_of_foldlM {decisions : List (String × Severity)} {t u : SeverityTable}
    (read : decisions.foldlM (fun t (text, severity) => do
      return SeverityTable.set t (← RuleId.read text) severity) t = .ok u) :
    u.decisions = (decided decisions).reverse ++ t.decisions := by
  induction decisions generalizing t with
  | nil =>
      cases read
      rfl
  | cons decision rest ih =>
      obtain ⟨next, readsFirst, readsRest⟩ := bind_eq_ok_iff.mp read
      obtain ⟨id, named, set⟩ := bind_eq_ok_iff.mp readsFirst
      cases set
      have first : decided (decision :: rest) = (id, decision.2) :: decided rest :=
        List.filterMap_cons_some (by rw [RuleId.read_eq_ok_iff.mp named]; rfl)
      rw [ih readsRest, first, List.reverse_cons, List.append_assoc]
      rfl

theorem decisions_ofDecisions {decisions : List (String × Severity)} {t : SeverityTable}
    (read : ofDecisions decisions = .ok t) : t.decisions = (decided decisions).reverse := by
  rw [decisions_of_foldlM read]
  exact List.append_nil _

theorem lookup_filter {id other : RuleId} (differ : other ≠ id)
    (decisions : List (RuleId × Severity)) :
    (decisions.filter fun decision => decision.1 != id).lookup other = decisions.lookup other := by
  induction decisions with
  | nil => rfl
  | cons decision rest ih =>
      obtain ⟨first, severity⟩ := decision
      by_cases here : first = id
      · rw [List.filter_cons_of_neg (by simpa using here), ih, List.lookup_cons, here,
          beq_eq_false_iff_ne.mpr differ]
      · rw [List.filter_cons_of_pos (by simpa using here), List.lookup_cons, List.lookup_cons, ih]

/-- Whether a decision is about another rule. -/
def isAboutOther (id : RuleId) (decision : String × Severity) : Bool :=
  RuleId.find? decision.1 != some id

theorem filter_decided (id : RuleId) (decisions : List (String × Severity)) :
    (decided decisions).filter (fun decision => decision.1 != id) =
      decided (decisions.filter (isAboutOther id)) := by
  rw [decided, decided, List.filter_filterMap, List.filterMap_filter]
  refine List.filterMap_congr fun decision _ => ?_
  cases named : RuleId.find? decision.1 <;> simp [isAboutOther, named, Option.filter]

/-- Decisions about one rule do not count for another one. -/
theorem get_eq_of_others {before after : List (String × Severity)} {t u : SeverityTable}
    (readsBefore : ofDecisions before = .ok t) (readsAfter : ofDecisions after = .ok u)
    {id other : RuleId} (others : before.filter (isAboutOther id) = after.filter (isAboutOther id))
    (differ : other ≠ id) (o : Outcome) : t.get other o = u.get other o := by
  have looked : t.decisions.lookup other = u.decisions.lookup other := by
    rw [decisions_ofDecisions readsBefore, decisions_ofDecisions readsAfter,
      ← lookup_filter differ, ← lookup_filter differ (decided after).reverse, List.filter_reverse,
      List.filter_reverse, filter_decided, filter_decided, others]
  cases o with
  | unevaluated => rfl
  | violation | relaxed => rw [get, get, looked]

end SeverityTable

end SchemaEvolution
