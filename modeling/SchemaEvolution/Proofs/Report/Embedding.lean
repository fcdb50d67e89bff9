import SchemaEvolution.Proofs.Schema.Built
import SchemaEvolution.Report.Embedding

/-! # Who embeds a type

`Refers` says that some field of one type is of another one.  The rounds of `collect` find the
names from which a chain of such references leads to the names they began with, and no others
(`mem_collect_iff`); so the embedders of a type are the other types from which a chain leads to it
(`mem_embedders_iff`).
-/

namespace SchemaEvolution

/-- Whether a type of a list has a name and refers to another one. -/
def Refers (types : List TypeDef) (name target : String) : Prop :=
  ∃ t ∈ types, t.name = name ∧ target ∈ t.references

theorem Refers.mono {types others : List TypeDef} (within : ∀ t ∈ types, t ∈ others)
    {name target : String} (refers : Refers types name target) : Refers others name target := by
  obtain ⟨t, member, named, references⟩ := refers
  exact ⟨t, within t member, named, references⟩

theorem leads_mono {types others : List TypeDef} (within : ∀ t ∈ types, t ∈ others)
    {name target : String} (chain : Relation.TransGen (Refers types) name target) :
    Relation.TransGen (Refers others) name target :=
  chain.lift id fun _ _ refers => Refers.mono within refers

namespace Snapshot

variable {found : List String} {types : List TypeDef} {name other : String}

theorem refersTo_iff {t : TypeDef} :
    refersTo found t = true ↔ ∃ target ∈ t.references, target ∈ found := by
  simp [refersTo]

/-- The names that are found after a round. -/
def afterRound (found : List String) (types : List TypeDef) : List String :=
  found ++ (types.filter (refersTo found)).map TypeDef.name

/-- What a round finds has a reference to what was found before. -/
theorem mem_afterRound_cases (inside : other ∈ afterRound found types) :
    other ∈ found ∨ ∃ target ∈ found, Refers types other target := by
  rcases List.mem_append.mp inside with known | fresh
  · exact .inl known
  obtain ⟨t, member, named⟩ := List.mem_map.mp fresh
  obtain ⟨inside, refers⟩ := List.mem_filter.mp member
  obtain ⟨target, referenced, known⟩ := refersTo_iff.mp refers
  exact .inr ⟨target, known, t, inside, named, referenced⟩

/-- A type is found in the round in which it refers to what was found, and is left for the next one
    otherwise. -/
theorem mem_afterRound_or_left {target : String} (refers : Refers types other target) :
    other ∈ afterRound found types ∨
      target ∉ found ∧ Refers (unrelated found types) other target := by
  obtain ⟨t, member, rfl, referenced⟩ := refers
  by_cases now : refersTo found t = true
  · exact .inl (List.mem_append_right _
      (List.mem_map_of_mem (List.mem_filter.mpr ⟨member, now⟩)))
  · exact .inr ⟨fun known => now (refersTo_iff.mpr ⟨target, referenced, known⟩),
      t, List.mem_filter.mpr ⟨member, by simpa using now⟩, rfl, referenced⟩

/-- A type that a chain leads to what was found is found in this round, or a chain through the types
    that are left leads it to what has been found after it. -/
theorem leads_after_round {target : String} (known : target ∈ found)
    (chain : Relation.TransGen (Refers types) other target) :
    other ∈ afterRound found types ∨
      ∃ y ∈ afterRound found types,
        Relation.TransGen (Refers (unrelated found types)) other y := by
  induction chain using Relation.TransGen.head_induction_on with
  | single refers =>
      rcases mem_afterRound_or_left refers with now | ⟨unknown, -⟩
      · exact .inl now
      · exact absurd known unknown
  | @head x y refers _ ih =>
      rcases mem_afterRound_or_left refers with now | ⟨-, left⟩
      · exact .inl now
      · rcases ih with here | ⟨z, inside, rest⟩
        · exact .inr ⟨y, here, .single left⟩
        · exact .inr ⟨z, inside, .head left rest⟩

/-- The rounds find what they began with and what a chain of references leads to it. -/
theorem mem_collect_iff :
    other ∈ collect found types ↔
      other ∈ found ∨ ∃ target ∈ found, Relation.TransGen (Refers types) other target := by
  fun_induction collect found types with
  | case1 found types round =>
      refine ⟨.inl, ?_⟩
      rintro (known | ⟨target, known, chain⟩)
      · exact known
      · -- The last round finds nothing, so no reference leads to what was found.
        obtain ⟨last, -, t, member, -, referenced⟩ := Relation.TransGen.tail'_iff.mp chain
        have now : t ∈ types.filter (refersTo found) :=
          List.mem_filter.mpr ⟨member, refersTo_iff.mpr ⟨target, referenced, known⟩⟩
        rw [round] at now
        cases now
  | case2 found types fresh more round ih =>
      rw [← round] at ih
      rw [← round]
      refine ih.trans ⟨?_, ?_⟩
      · rintro (inside | ⟨y, inside, chain⟩)
        · exact (mem_afterRound_cases inside).imp_right fun ⟨target, known, refers⟩ =>
            ⟨target, known, .single refers⟩
        · have whole := leads_mono (fun t member => (List.mem_filter.mp member).1) chain
          rcases mem_afterRound_cases inside with known | ⟨target, known, refers⟩
          · exact .inr ⟨y, known, whole⟩
          · exact .inr ⟨target, known, whole.tail refers⟩
      · rintro (known | ⟨target, known, chain⟩)
        · exact .inl (List.mem_append_left _ known)
        · exact leads_after_round known chain

variable {s : Snapshot}

/-- A type embeds another one exactly if a chain of references leads from it to the other. -/
theorem mem_embedders_iff :
    other ∈ s.embedders name ↔
      s.has name = true ∧ other ≠ name ∧ Relation.TransGen (Refers s.types) other name := by
  -- The type itself is left out of the rounds, so a chain counts up to where it first arrives.
  have firstArrival : other ≠ name → Relation.TransGen (Refers s.types) other name →
      Relation.TransGen (Refers (s.types.filter (·.name != name))) other name := by
    have kept {x y : String} (differ : x ≠ name) (refers : Refers s.types x y) :
        Refers (s.types.filter (·.name != name)) x y := by
      obtain ⟨t, member, rfl, referenced⟩ := refers
      exact ⟨t, List.mem_filter.mpr ⟨member, bne_iff_ne.mpr differ⟩, rfl, referenced⟩
    intro differ chain
    induction chain using Relation.TransGen.head_induction_on with
    | single refers => exact .single (kept differ refers)
    | @head x y refers _ ih =>
        by_cases arrived : y = name
        · exact .single (kept differ (arrived ▸ refers))
        · exact .head (kept differ refers) (ih arrived)
  have named (chain : Relation.TransGen (Refers s.types) other name) : other ∈ s.names := by
    obtain ⟨_, ⟨t, member, called, -⟩, -⟩ := Relation.TransGen.head'_iff.mp chain
    exact List.mem_map.mpr ⟨t, member, called⟩
  unfold embedders
  split
  case isFalse unknown => simp [unknown]
  case isTrue known =>
    simp only [List.mem_filter, Bool.and_eq_true, bne_iff_ne, List.contains_iff_mem,
      mem_collect_iff, List.mem_singleton, exists_eq_left, known, true_and]
    constructor
    · rintro ⟨-, differ, same | chain⟩
      · exact absurd same differ
      · exact ⟨differ, leads_mono (fun t member => (List.mem_filter.mp member).1) chain⟩
    · rintro ⟨differ, chain⟩
      exact ⟨named chain, differ, .inr (firstArrival differ chain)⟩

theorem pairwise_embedders (valid : s.Valid) :
    (s.embedders name).Pairwise (nameBefore · · = true) := by
  unfold embedders
  split
  · exact (List.pairwise_map.mpr valid.sorted).filter _
  · exact List.Pairwise.nil

end Snapshot

end SchemaEvolution
