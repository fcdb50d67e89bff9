import Mathlib
import SchemaEvolution.Rule.Registry

/-! # The rules that settings select

Settings that `validate` accepts always give a registry (`exists_ofSettings`): every text in them
names a rule, so reading the lists and the gradings cannot fail afterwards.  The registry keeps
the settings and runs each rule at most once.
-/

namespace SchemaEvolution

theorem bind_eq_ok_iff {ε α β : Type} {x : Except ε α} {f : α → Except ε β} {b : β} :
    (x >>= f) = .ok b ↔ ∃ a, x = .ok a ∧ f a = .ok b := by
  cases x with
  | error e => simp [bind, Except.bind]
  | ok a => simp [bind, Except.bind]

theorem bind_eq_error_iff {ε α β : Type} {x : Except ε α} {f : α → Except ε β} {e : ε} :
    (x >>= f) = .error e ↔ x = .error e ∨ ∃ a, x = .ok a ∧ f a = .error e := by
  cases x with
  | error e => simp [bind, Except.bind]
  | ok a => simp [bind, Except.bind]

namespace Settings

theorem forM_read_eq_ok_iff {texts : List String} :
    (texts.forM fun text => discard (RuleId.read text)) = .ok () ↔
      ∀ text ∈ texts, ∃ id, RuleId.read text = .ok id := by
  induction texts with
  | nil => simp [List.forM, pure, Except.pure]
  | cons text rest ih =>
      rw [List.forM, List.forall_mem_cons, bind_eq_ok_iff, ih]
      cases RuleId.read text <;> simp [discard, Functor.mapConst, Except.map]

theorem validate_eq_ok_iff {s : Settings} :
    s.validate = .ok () ↔
      s.fieldCountThreshold ≠ 0 ∧ s.workers ≠ some 0 ∧
      ∀ text ∈ s.ruleTexts, ∃ id, RuleId.read text = .ok id := by
  rw [← forM_read_eq_ok_iff]
  unfold validate
  by_cases threshold : s.fieldCountThreshold = 0
  · simp [threshold, bind, Except.bind, throw, throwThe, MonadExceptOf.throw]
  · by_cases workers : s.workers = some 0
    · simp [threshold, workers, bind, Except.bind, throw, throwThe, MonadExceptOf.throw]
    · simp [threshold, workers]

theorem exists_mapM_read {texts : List String}
    (readable : ∀ text ∈ texts, ∃ id, RuleId.read text = .ok id) :
    ∃ ids, texts.mapM RuleId.read = .ok ids := by
  induction texts with
  | nil => exact ⟨[], rfl⟩
  | cons text rest ih =>
      obtain ⟨⟨id, read⟩, later⟩ := List.forall_mem_cons.mp readable
      obtain ⟨ids, reads⟩ := ih later
      exact ⟨id :: ids, by rw [List.mapM_cons, read, reads]; rfl⟩

theorem exists_severities {decisions : List (String × Severity)} (t : SeverityTable)
    (readable : ∀ text ∈ decisions.map Prod.fst, ∃ id, RuleId.read text = .ok id) :
    ∃ u, decisions.foldlM (fun t (text, severity) => do
      return SeverityTable.set t (← RuleId.read text) severity) t = .ok u := by
  induction decisions generalizing t with
  | nil => exact ⟨t, rfl⟩
  | cons decision rest ih =>
      obtain ⟨text, severity⟩ := decision
      obtain ⟨⟨id, read⟩, later⟩ := List.forall_mem_cons.mp readable
      obtain ⟨u, folded⟩ := ih (t.set id severity) later
      refine ⟨u, bind_eq_ok_iff.mpr ⟨t.set id severity, ?_, folded⟩⟩
      exact bind_eq_ok_iff.mpr ⟨id, read, rfl⟩

theorem rules_eq_ok_iff {s : Settings} {rules : List RuleId} :
    s.rules = .ok rules ↔ ∃ allow deny,
      s.ruleAllowlist.mapM RuleId.read = .ok allow ∧
      s.ruleDenylist.mapM RuleId.read = .ok deny ∧
      RuleId.all.filter (fun id => (allow.isEmpty || allow.contains id) && !deny.contains id) =
        rules := by
  simp only [Settings.rules, bind_eq_ok_iff, pure, Except.pure, Except.ok.injEq]
  constructor
  · rintro ⟨allow, reads, deny, readsDeny, same⟩
    exact ⟨allow, deny, reads, readsDeny, same⟩
  · rintro ⟨allow, deny, reads, readsDeny, same⟩
    exact ⟨allow, reads, deny, readsDeny, same⟩

end Settings

namespace Registry

theorem ofSettings_eq_ok_iff {settings : Settings} {r : Registry} :
    ofSettings settings = .ok r ↔
      settings.validate = .ok () ∧ settings.rules = .ok r.rules ∧
      settings.severities = .ok r.severities ∧ settings = r.settings := by
  simp only [ofSettings, bind_eq_ok_iff, pure, Except.pure, Except.ok.injEq]
  constructor
  · rintro ⟨⟨⟩, valid, rules, selected, severities, graded, rfl⟩
    exact ⟨valid, selected, graded, rfl⟩
  · rintro ⟨valid, selected, graded, rfl⟩
    exact ⟨(), valid, _, selected, _, graded, rfl⟩

/-- Settings that make sense have a registry. -/
theorem exists_ofSettings {settings : Settings} (valid : settings.validate = .ok ()) :
    ∃ r, ofSettings settings = .ok r := by
  obtain ⟨-, -, readable⟩ := Settings.validate_eq_ok_iff.mp valid
  simp only [Settings.ruleTexts, List.mem_append] at readable
  obtain ⟨allow, reads⟩ := Settings.exists_mapM_read
    fun text member => readable text (.inl (.inl member))
  obtain ⟨deny, readsDeny⟩ := Settings.exists_mapM_read
    fun text member => readable text (.inl (.inr member))
  obtain ⟨table, graded⟩ := Settings.exists_severities .standard
    fun text member => readable text (.inr member)
  exact ⟨⟨_, table, settings⟩, ofSettings_eq_ok_iff.mpr
    ⟨valid, Settings.rules_eq_ok_iff.mpr ⟨allow, deny, reads, readsDeny, rfl⟩, graded, rfl⟩⟩

/-- A registry runs each of its rules once. -/
theorem nodup_rules {settings : Settings} {r : Registry} (ok : ofSettings settings = .ok r) :
    r.rules.Nodup := by
  obtain ⟨-, selected, -, -⟩ := ofSettings_eq_ok_iff.mp ok
  obtain ⟨allow, deny, -, -, same⟩ := Settings.rules_eq_ok_iff.mp selected
  rw [← same]
  have all : RuleId.all.Nodup := by decide
  exact all.filter _

/-- The registry of the settings that nobody changed. -/
def default : Registry := ⟨RuleId.all, .standard, {}⟩

theorem ofSettings_default : ofSettings {} = .ok default := by rfl

end Registry

end SchemaEvolution
