import Mathlib
import SchemaEvolution.Config.Coercion
import SchemaEvolution.Proofs.Config.Selection
import SchemaEvolution.Proofs.Config.Stacking
import SchemaEvolution.Proofs.Order.Corresponding

/-! # Which layer decides an option

An option can be spelled in several ways, and a stack of layers keeps the spellings apart until all
layers are merged.  Then the spelling wins that comes last in the order of keys, and among its
entries the last one (`latest_spelling_decides`).  So a layer at the bottom can hide one on top of
it that spells the option in another way (`capitals_overrule_last_layer`).
-/

namespace SchemaEvolution

namespace ConfigOption

/-- What the value of an option is read as. -/
abbrev Value : ConfigOption → Type
  | fieldCountThreshold => Nat
  | treatAdvisoryAsError => Bool
  | ruleAllowlist | ruleDenylist => List String
  | integerNarrowing => Narrowing
  | workers => Option Nat
  | severityOverrides => List (String × Severity)

/-- Read the value of an option. -/
def read? : (o : ConfigOption) → Toml → Option o.Value
  | fieldCountThreshold => Toml.word64?
  | treatAdvisoryAsError => Toml.bool?
  | ruleAllowlist | ruleDenylist => Toml.strings?
  | integerNarrowing => Toml.variant? Narrowing.table
  | workers => fun value => value.word64?.map some
  | severityOverrides => Toml.severities?

end ConfigOption

namespace Settings

/-- The value of an option. -/
def get (s : Settings) : (o : ConfigOption) → o.Value
  | .fieldCountThreshold => s.fieldCountThreshold
  | .treatAdvisoryAsError => s.treatAdvisoryAsError
  | .ruleAllowlist => s.ruleAllowlist
  | .ruleDenylist => s.ruleDenylist
  | .integerNarrowing => s.integerNarrowing
  | .workers => s.workers
  | .severityOverrides => s.severityOverrides

section Choosing

variable {entries : Toml.Entries} {set : List (ConfigOption × Toml)} {s : Settings}
  {o : ConfigOption}

/-- Every option is read on its own. -/
theorem withDefault?_of_ofOptions? (read : ofOptions? set = some s) (o : ConfigOption) :
    withDefault? set o (({} : Settings).get o) o.read? = some (s.get o) := by
  simp only [ofOptions?, Option.bind_eq_bind, Option.bind_eq_some_iff, Option.pure_def,
    Option.some.injEq] at read
  obtain ⟨threshold, readThreshold, raises, readRaises, allow, readAllow, deny, readDeny, narrowing,
    readNarrowing, workers, readWorkers, severities, readSeverities, rfl⟩ := read
  cases o <;> assumption

/-- The option that an entry stands for, with its value. -/
def named (entry : String × Toml) : Except Failure (ConfigOption × Toml) :=
  match ConfigOption.find? entry.1 with
  | some option => .ok (option, entry.2)
  | none => .error (.unknownOption entry.1)

theorem options_eq (entries : Toml.Entries) : options entries = (inOrder entries).mapM named := rfl

theorem named_eq_ok_iff {entry : String × Toml} {option : ConfigOption} {value : Toml} :
    named entry = .ok (option, value) ↔
      ConfigOption.find? entry.1 = some option ∧ entry.2 = value := by
  unfold named
  cases ConfigOption.find? entry.1 <;> simp

/-- The value of an option is that of the last entry that stands for it. -/
theorem chosen?_of_mapM (reads : entries.mapM named = .ok set) (o : ConfigOption) :
    chosen? set o =
      (entries.reverse.find? fun entry => ConfigOption.find? entry.1 == some o).map Prod.snd := by
  rw [chosen?]
  induction entries generalizing set with
  | nil =>
      cases reads
      rfl
  | cons entry rest ih =>
      rw [List.mapM_cons] at reads
      obtain ⟨⟨option, value⟩, first, reads⟩ := bind_eq_ok_iff.mp reads
      obtain ⟨others, readsRest, reads⟩ := bind_eq_ok_iff.mp reads
      cases reads
      obtain ⟨known, rfl⟩ := named_eq_ok_iff.mp first
      have here : [(option, entry.2)].lookup o =
          ([entry].find? fun entry => ConfigOption.find? entry.1 == some o).map Prod.snd := by
        by_cases same : option = o
        · simp [same, known]
        · simp [List.lookup_cons, beq_eq_false_iff_ne.mpr (Ne.symm same), known, same]
      rw [List.reverse_cons, List.lookup_append, ih readsRest, here, List.reverse_cons,
        List.find?_append]
      cases rest.reverse.find? fun entry => ConfigOption.find? entry.1 == some o <;> rfl

theorem inOrder_perm (entries : Toml.Entries) : (inOrder entries).Perm entries :=
  Sorted.sortStable_perm _ entries

theorem pairwise_inOrder (entries : Toml.Entries) :
    (inOrder entries).Pairwise fun a b => nameBefore b.1 a.1 = false := by
  have sorted : (inOrder entries).Pairwise fun a b => (!nameBefore b.1 a.1) = true := by
    refine Sorted.pairwise_sortStable ?_ ?_ entries
    · intro a b c first second
      simp only [nameBefore, Bool.not_eq_true', decide_eq_false_iff_not, String.not_lt] at *
      exact String.le_trans first second
    · intro a b
      simp only [nameBefore, Bool.not_eq_true', decide_eq_false_iff_not, String.not_lt]
      exact String.le_total a.1 b.1
  exact sorted.imp fun notBefore => by simpa using notBefore

/-- Where no key stands for an option, no value is chosen for it. -/
theorem chosen?_eq_none (ok : options entries = .ok set)
    (silent : ∀ k ∈ entries.map Prod.fst, ConfigOption.find? k ≠ some o) :
    chosen? set o = none := by
  rw [options_eq] at ok
  rw [chosen?_of_mapM ok, Option.map_eq_none_iff, List.find?_eq_none]
  intro entry member
  have inside := (inOrder_perm entries).mem_iff.mp (List.mem_reverse.mp member)
  simpa using silent entry.1 (List.mem_map_of_mem inside)

/-- Of the keys that stand for an option, the one that comes last in the order of keys is chosen. -/
theorem chosen?_eq_some (ok : options entries = .ok set)
    (distinct : (entries.map Prod.fst).Nodup) {k : String} {value : Toml}
    (held : entries.lookup k = some value) (stands : ConfigOption.find? k = some o)
    (last : ∀ other ∈ entries.map Prod.fst, ConfigOption.find? other = some o →
      nameBefore k other = false) : chosen? set o = some value := by
  have member : (k, value) ∈ inOrder entries :=
    (inOrder_perm entries).mem_iff.mpr ((lookup_eq_some_iff_of_nodup distinct).mp held)
  rw [options_eq] at ok
  rw [chosen?_of_mapM ok]
  cases found : (inOrder entries).reverse.find? fun entry =>
      ConfigOption.find? entry.1 == some o with
  | none =>
      have none := List.find?_eq_none.mp found (k, value) (List.mem_reverse.mpr member)
      simp [stands] at none
  | some entry =>
      obtain ⟨chosen, behind, before, parted, skipped⟩ := List.find?_eq_some_iff_append.mp found
      have ordered : inOrder entries = before.reverse ++ entry :: behind.reverse := by
        rw [← List.reverse_reverse (inOrder entries), parted]
        simp
      have inside : entry ∈ entries := (inOrder_perm entries).mem_iff.mp (by simp [ordered])
      have notAfter : nameBefore entry.1 k = false := by
        have sorted := pairwise_inOrder entries
        rw [ordered] at sorted member
        rcases List.mem_append.mp member with member | member
        · exact (List.pairwise_append.mp sorted).2.2 _ member entry List.mem_cons_self
        rcases List.mem_cons.mp member with rfl | member
        · exact nameBefore_isStrictOrder.irrefl k
        · have skips := skipped _ (List.mem_reverse.mp member)
          simp [stands] at skips
      have same : k = entry.1 := nameBefore_isStrictOrder.eq_of_neither k entry.1
        (last entry.1 (List.mem_map_of_mem inside) (by simpa using chosen)) notAfter
      rw [Option.map_some, ← held, same]
      exact ((lookup_eq_some_iff_of_nodup distinct).mpr inside).symm

end Choosing

theorem ofLayers_eq_ok_iff {layers : List Layer} {s : Settings} :
    ofLayers layers = .ok s ↔ ∃ set, options (Layer.stack layers) = .ok set ∧
      ofOptions? set = some s ∧ s.validate = .ok () := by
  rw [ofLayers, bind_eq_ok_iff]
  refine exists_congr fun set => and_congr_right fun _ => ?_
  cases ofOptions? set with
  | none => simp [throw, throwThe, MonadExceptOf.throw]
  | some settings =>
      simp only [bind_eq_ok_iff, pure, Except.pure, Except.ok.injEq, Option.some.injEq]
      constructor
      · rintro ⟨⟨⟩, valid, rfl⟩
        exact ⟨rfl, valid⟩
      · rintro ⟨rfl, valid⟩
        exact ⟨(), valid, rfl⟩

end Settings

namespace Layer

/-- Whether an entry sets an option, in any spelling. -/
def Mentions (o : ConfigOption) (entry : String × Toml) : Prop :=
  ConfigOption.find? (spelling entry) = some o

instance (o : ConfigOption) (entry : String × Toml) : Decidable (Mentions o entry) :=
  inferInstanceAs (Decidable (ConfigOption.find? (spelling entry) = some o))

/-- Whether an entry is the last one of those that set an option in the spelling that comes last in
    the order of keys. -/
structure Decides (o : ConfigOption) (before : Layer) (entry : String × Toml) (after : Layer) :
    Prop where
  mentions : Mentions o entry
  notBefore : ∀ other ∈ before, Mentions o other →
    nameBefore (spelling entry) (spelling other) = false
  after : ∀ other ∈ after, Mentions o other → nameBefore (spelling other) (spelling entry) = true

/-- Whether an entry is the last one in a stack of layers that sets an option. -/
def IsLast (o : ConfigOption) (layers : List Layer) (entry : String × Toml) : Prop :=
  Mentions o entry ∧ ∃ before after, layers.flatten = before ++ entry :: after ∧
    ∀ other ∈ after, ¬ Mentions o other

variable {o : ConfigOption}

/-- An option that some entry sets is decided by one. -/
theorem exists_decides {entries : Layer} (mentioned : ∃ entry ∈ entries, Mentions o entry) :
    ∃ before entry after, entries = before ++ entry :: after ∧ Decides o before entry after := by
  induction entries with
  | nil =>
      obtain ⟨_, none, -⟩ := mentioned
      cases none
  | cons first rest ih =>
      by_cases later : ∃ entry ∈ rest, Mentions o entry
      · obtain ⟨before, entry, after, rfl, mentions, notBefore, behind⟩ := ih later
        by_cases beats : Mentions o first ∧ nameBefore (spelling entry) (spelling first) = true
        · refine ⟨[], first, before ++ entry :: after, rfl, beats.1, nofun, ?_⟩
          rw [List.forall_mem_append, List.forall_mem_cons]
          refine ⟨fun other inside here => ?_, fun _ => beats.2, fun other inside here => ?_⟩
          · exact nameBefore_isStrictOrder.before_of_notBefore (notBefore other inside here) beats.2
          · exact nameBefore_isStrictOrder.trans _ _ _ (behind other inside here) beats.2
        · refine ⟨first :: before, entry, after, rfl, mentions, ?_, behind⟩
          rw [List.forall_mem_cons]
          exact ⟨fun here => Bool.eq_false_iff.mpr fun less => beats ⟨here, less⟩, notBefore⟩
      · obtain ⟨entry, member, mentions⟩ := mentioned
        rcases List.mem_cons.mp member with rfl | member
        · exact ⟨[], entry, rest, rfl, mentions, nofun, fun other inside other' =>
            absurd ⟨other, inside, other'⟩ later⟩
        · exact absurd ⟨entry, member, mentions⟩ later

end Layer

namespace Settings

variable {layers : List Layer} {s : Settings} {o : ConfigOption}

/-- An option that no entry sets has its default. -/
theorem get_of_not_mentioned (loaded : ofLayers layers = .ok s)
    (silent : ∀ entry ∈ layers.flatten, ¬ Layer.Mentions o entry) :
    s.get o = ({} : Settings).get o := by
  obtain ⟨set, ok, read, -⟩ := ofLayers_eq_ok_iff.mp loaded
  have none : chosen? set o = none := by
    refine chosen?_eq_none ok fun k member stands => ?_
    obtain ⟨entry, inside, rfl⟩ := List.mem_map.mp (Layer.mem_keys_stack.mp member)
    exact silent entry inside stands
  have value := withDefault?_of_ofOptions? read o
  rw [withDefault?, none] at value
  exact (Option.some.inj value).symm

/-- An option is read from what is held in the spelling that comes last in the order of keys. -/
theorem read?_of_held (loaded : ofLayers layers = .ok s) {k : String} {value : Toml}
    (held : Layer.held k layers.flatten = some value) (stands : ConfigOption.find? k = some o)
    (last : ∀ entry ∈ layers.flatten, Layer.Mentions o entry →
      nameBefore k (Layer.spelling entry) = false) : o.read? value = some (s.get o) := by
  obtain ⟨set, ok, read, -⟩ := ofLayers_eq_ok_iff.mp loaded
  have chosen : chosen? set o = some value := by
    rw [← Layer.lookup_stack] at held
    refine chosen?_eq_some ok (Layer.nodup_keys_stack layers) held stands ?_
    intro other member mentions
    obtain ⟨entry, inside, rfl⟩ := List.mem_map.mp (Layer.mem_keys_stack.mp member)
    exact last entry inside mentions
  have value := withDefault?_of_ofOptions? read o
  rw [withDefault?, chosen] at value
  exact value

/-- An option has the value that the entry which decides it makes of the earlier entries in its
    spelling. -/
theorem get_of_decides (loaded : ofLayers layers = .ok s) {before after : Layer}
    {entry : String × Toml} (parted : layers.flatten = before ++ entry :: after)
    (decides : Layer.Decides o before entry after) :
    o.read? (Layer.entered entry (Layer.held (Layer.spelling entry) before)) = some (s.get o) := by
  obtain ⟨mentions, notBefore, behind⟩ := decides
  have order := nameBefore_isStrictOrder
  have others : ∀ other ∈ after, Layer.spelling other ≠ Layer.spelling entry := by
    intro other inside same
    have less := behind other inside (by rw [Layer.Mentions, same]; exact mentions)
    rw [same, order.irrefl] at less
    cases less
  refine read?_of_held loaded (by rw [parted, Layer.held_append_cons rfl others]) mentions ?_
  rw [parted, List.forall_mem_append, List.forall_mem_cons]
  exact ⟨notBefore, fun _ => order.irrefl _,
    fun other inside here => order.asymm (behind other inside here)⟩

/-- An option that is set to tables in one spelling is read from the tables as layers of their
    own. -/
theorem get_of_tables (loaded : ofLayers layers = .ok s) {k : String}
    {tables : List (String × Toml.Entries)} (filled : tables ≠ [])
    (mentions : layers.flatten.filter (Layer.Mentions o) = tables.map Layer.tableEntry)
    (plain : ∀ table ∈ tables, Layer.spelling (Layer.tableEntry table) = k ∧
      KeyPath.inner table.1 = [] ∧ Layer.NoPaths table.2) :
    o.read? (.table (Layer.stack (tables.map Prod.snd))) = some (s.get o) := by
  have spelled : ∀ entry ∈ layers.flatten, Layer.Mentions o entry → Layer.spelling entry = k := by
    intro entry inside here
    have member : entry ∈ layers.flatten.filter (Layer.Mentions o) :=
      List.mem_filter.mpr ⟨inside, decide_eq_true here⟩
    rw [mentions] at member
    obtain ⟨table, among, rfl⟩ := List.mem_map.mp member
    exact (plain table among).1
  have stands : ConfigOption.find? k = some o := by
    obtain ⟨table, member⟩ := List.exists_mem_of_ne_nil tables filled
    have inside : Layer.tableEntry table ∈ layers.flatten.filter (Layer.Mentions o) :=
      mentions ▸ List.mem_map_of_mem member
    have here := of_decide_eq_true (List.mem_filter.mp inside).2
    rwa [Layer.Mentions, (plain table member).1] at here
  have parted : layers.flatten.filter (fun entry => Layer.spelling entry == k) =
      tables.map Layer.tableEntry := by
    rw [← mentions]
    refine List.filter_congr fun entry inside => ?_
    rw [Bool.eq_iff_iff, beq_iff_eq, decide_eq_true_eq]
    exact ⟨fun same => by rw [Layer.Mentions, same]; exact stands, spelled entry inside⟩
  refine read?_of_held loaded
    (Layer.held_of_tables parted filled fun table member => (plain table member).2) stands ?_
  intro entry inside here
  rw [spelled entry inside here]
  exact nameBefore_isStrictOrder.irrefl k

end Settings

/-- An option that no layer sets has its default.  Of the others each is decided by one entry: the
    last one of those in the spelling that comes last in the order of keys, whatever layers they
    are in.  So the last entry that sets an option decides it if no layer has a spelling that comes
    later in the order of keys, and tables in one spelling decide key by key, as layers do. -/
theorem latest_spelling_decides {layers : List Layer} {s : Settings}
    (loaded : Settings.ofLayers layers = .ok s) (o : ConfigOption) :
    ((∀ entry ∈ layers.flatten, ¬ Layer.Mentions o entry) → s.get o = ({} : Settings).get o) ∧
      ((∃ entry ∈ layers.flatten, Layer.Mentions o entry) → ∃ before entry after,
        layers.flatten = before ++ entry :: after ∧ Layer.Decides o before entry after) ∧
      (∀ before entry after, layers.flatten = before ++ entry :: after →
        Layer.Decides o before entry after →
          o.read? (Layer.entered entry (Layer.held (Layer.spelling entry) before)) =
            some (s.get o)) ∧
      (∀ entry, Layer.IsLast o layers entry → Layer.IsPlain entry →
        (∀ other ∈ layers.flatten, Layer.Mentions o other →
          nameBefore (Layer.spelling entry) (Layer.spelling other) = false) →
        o.read? entry.2 = some (s.get o)) ∧
      ∀ (k : String) (tables : List (String × Toml.Entries)), tables ≠ [] →
        layers.flatten.filter (Layer.Mentions o) = tables.map Layer.tableEntry →
        (∀ table ∈ tables, Layer.spelling (Layer.tableEntry table) = k ∧
          KeyPath.inner table.1 = [] ∧ Layer.NoPaths table.2) →
        o.read? (.table (Layer.stack (tables.map Prod.snd))) = some (s.get o) := by
  refine ⟨Settings.get_of_not_mentioned loaded, Layer.exists_decides,
    fun before entry after parted decides => Settings.get_of_decides loaded parted decides, ?_,
    fun k tables filled mentions plain => Settings.get_of_tables loaded filled mentions plain⟩
  rintro entry ⟨mentions, before, after, parted, last⟩ plain greatest
  have decides : Layer.Decides o before entry after := by
    refine ⟨mentions, fun other member => greatest other ?_, fun other member here => ?_⟩
    · rw [parted]
      exact List.mem_append_left _ member
    · exact absurd here (last other member)
  rw [← Layer.entered_of_isPlain plain (Layer.held _ before)]
  exact Settings.get_of_decides loaded parted decides

/-- A layer that spells the threshold with capitals, and another one on top of it that does not. -/
def overruled : List Layer :=
  [[("fieldCountThreshold", .integer 50), ("workers", .integer 2)],
   [("field_count_threshold", .integer 10), ("WORKERS", .string "4")]]

/-- What the layers of `overruled` come to. -/
def overruling : Settings := { fieldCountThreshold := 50, workers := some 4 }

theorem ofLayers_overruled : Settings.ofLayers overruled = .ok overruling := by
  have value : (Settings.ofLayers overruled).toOption = some overruling := by decide +kernel
  cases read : Settings.ofLayers overruled with
  | error e =>
      rw [read] at value
      cases value
  | ok s =>
      rw [read] at value
      rw [Option.some.inj value]

theorem isLast_workers : Layer.IsLast .workers overruled ("WORKERS", .string "4") := by
  have parted : overruled.flatten =
      [("fieldCountThreshold", .integer 50), ("workers", .integer 2),
        ("field_count_threshold", .integer 10)] ++ ("WORKERS", .string "4") :: [] := rfl
  exact ⟨by decide +kernel, _, _, parted, nofun⟩

/-- The number of workers is spelled alike in both layers, up to the case of letters, and the last
    one decides it. -/
theorem last_layer_decides_workers :
    Settings.ofLayers overruled = .ok overruling ∧
      Layer.IsLast .workers overruled ("WORKERS", .string "4") ∧
      ConfigOption.read? .workers (.string "4") = some (overruling.get .workers) := by
  have plain : Layer.IsPlain ("WORKERS", .string "4") := ⟨by decide +kernel, nofun⟩
  have greatest : ∀ other ∈ overruled.flatten, Layer.Mentions .workers other →
      nameBefore (Layer.spelling ("WORKERS", .string "4")) (Layer.spelling other) = false := by
    decide +kernel
  obtain ⟨-, -, -, decides, -⟩ := latest_spelling_decides ofLayers_overruled .workers
  exact ⟨ofLayers_overruled, isLast_workers, decides _ isLast_workers plain greatest⟩

/-- The last entry that sets the threshold is in the layer on top, and does not decide it. -/
theorem capitals_overrule_last_layer :
    Settings.ofLayers overruled = .ok overruling ∧
      Layer.IsLast .fieldCountThreshold overruled ("field_count_threshold", .integer 10) ∧
      Layer.IsPlain ("field_count_threshold", .integer 10) ∧
      ConfigOption.read? .fieldCountThreshold (.integer 10) = some (10 : Nat) ∧
      overruling.get .fieldCountThreshold = (50 : Nat) := by
  have parted : overruled.flatten =
      [("fieldCountThreshold", .integer 50), ("workers", .integer 2)] ++
        ("field_count_threshold", .integer 10) :: [("WORKERS", .string "4")] := rfl
  have last : ∀ other ∈ [("WORKERS", Toml.string "4")],
      ¬ Layer.Mentions .fieldCountThreshold other := by
    decide +kernel
  exact ⟨ofLayers_overruled, ⟨by decide +kernel, _, _, parted, last⟩, ⟨by decide +kernel, nofun⟩,
    rfl, rfl⟩

end SchemaEvolution
