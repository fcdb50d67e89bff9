import SchemaEvolution.Proofs.Digest.Checksum
import SchemaEvolution.Proofs.Schema.Acceptance
import SchemaEvolution.Proofs.Schema.Encoding

/-! # Fingerprints

The text that the fingerprint of a snapshot is taken of says everything about its types and nothing
else.  The types read back from it, and what is built of them has the same text, so two snapshots
share the text exactly if they have the same types.
-/

namespace SchemaEvolution

namespace Snapshot

/-- Whether the values of all enums are numbered by signed words of 32 bits. -/
def InWords (s : Snapshot) : Prop := ∀ e, .enum e ∈ s.types → ∀ v ∈ e.values, v.InWord

/-- The types under their names, out of the value that they are written to. -/
def readTypes? : Json → Option (List (String × TypeDef))
  | .object members => members.mapM fun m => (TypeDef.ofJson? m.2).map (m.1, ·)
  | _ => none

variable {s : Snapshot}

theorem Valid.typesInWords (valid : s.Valid) (words : s.InWords) : ∀ t ∈ s.types, t.InWords := by
  have within {r : Reservations} {low high : Int} (ranges : r.Within low high)
      (above : Digits.int64Min ≤ low) (below : high ≤ Digits.int64Max) : r.InWords := by
    intro range member
    obtain ⟨start, filled, stop⟩ := ranges range member
    constructor <;> constructor <;> omega
  intro t member
  cases t with
  | message m =>
      have sound := valid.messages m member
      refine ⟨?_, within (tagRanges_iff.mp sound.ranges) (by decide) (by decide)⟩
      intro f inside
      have high : f.number ≤ maxTag := (sound.fields f inside).tagHigh
      have tags : (maxTag : Int) ≤ Digits.word32Max := by decide
      unfold Field.InWord
      omega
  | enum e =>
      exact ⟨words e member,
        within (valueRanges_iff.mp (valid.enums e member).ranges) (by decide) (by decide)⟩

theorem Valid.sorted_typesJson (valid : s.Valid) :
    s.typesJson.sorted = .object (s.types.map fun t => (t.name, t.toJson.sorted)) := by
  have ordered : ((([] : Json.Members) ++
      s.types.map fun t : TypeDef => (t.name, t.toJson)).map Prod.fst).Pairwise (· < ·) := by
    rw [List.nil_append, List.map_map, List.pairwise_map]
    exact valid.sorted.imp fun before => by simpa [nameBefore] using before
  rw [typesJson, Json.sorted, Json.sortedMembers_of_pairwise ordered, List.nil_append,
    List.map_map]
  rfl

/-- The text of the fingerprint reads back as the value that it is made of. -/
theorem Valid.parse?_fingerprintText (valid : s.Valid) (words : s.InWords) :
    Json.parse? s.fingerprintText = some s.typesJson.sorted := by
  have fits : Json.Fits (122 + 5) s.typesJson := by
    refine .object ?_
    rw [List.forall_mem_map]
    exact fun t member => TypeDef.fits_toJson (valid.typesInWords words t member)
  exact Json.parse?_compact fits.sorted

theorem Valid.readTypes?_typesJson (valid : s.Valid) (words : s.InWords) :
    readTypes? s.typesJson.sorted = some (s.types.map fun t => (t.name, t)) := by
  rw [valid.sorted_typesJson, readTypes?]
  have fits := valid.typesInWords words
  generalize s.types = types at fits
  induction types with
  | nil => rfl
  | cons t rest ih =>
      obtain ⟨first, others⟩ := List.forall_mem_cons.mp fits
      rw [List.map_cons, List.mapM_cons, ih others, TypeDef.ofJson?_toJson first]
      rfl

/-- Types that were built once are built again, in whatever order they are pushed. -/
theorem IsBuilt.exists_build (built : s.IsBuilt) {d : Draft} (perm : d.types.Perm s.types) :
    ∃ t, d.build = .ok t ∧ t.types = s.types := by
  obtain ⟨source, done⟩ := built
  obtain ⟨acceptable, rfl⟩ := Draft.build_eq_ok_iff_acceptable.mp done
  have pushed : source.types.Perm d.types := Draft.perm_inOrder.symm.trans perm.symm
  refine ⟨d.ordered, Draft.build_eq_ok_iff_acceptable.mpr ⟨acceptable.perm pushed, rfl⟩, ?_⟩
  exact (Draft.inOrder_eq_of_perm pushed acceptable.distinct).symm

theorem fingerprintText_of_types {t : Snapshot} (types : s.types = t.types) :
    s.fingerprintText = t.fingerprintText := by
  rw [fingerprintText, fingerprintText, typesJson, typesJson, types]

end Snapshot

/-- The types of a snapshot read back from the text of its fingerprint, and building them again,
    under any label and in any order, leads to the same text.  So two snapshots share the text
    exactly if they have the same types, and they share the checksum exactly then unless the digests
    of the texts collide. -/
theorem fingerprint_tells_types {s : Snapshot} (built : s.IsBuilt) (words : s.InWords) :
    (∃ decoded, (Json.parse? s.fingerprintText).bind Snapshot.readTypes? = some decoded ∧
      decoded = s.types.map (fun t => (t.name, t)) ∧
      ∀ d : Draft, d.types.Perm (decoded.map Prod.snd) →
        ∃ t, d.build = .ok t ∧ t.types = s.types ∧ t.fingerprintText = s.fingerprintText) ∧
    ∀ t : Snapshot, t.IsBuilt → t.InWords →
      (s.fingerprintText = t.fingerprintText ↔ s.types = t.types) ∧
      (¬ Checksum.Collide s.fingerprintText t.fingerprintText →
        (s.checksum = t.checksum ↔ s.types = t.types)) := by
  have reads (t : Snapshot) (built : t.IsBuilt) (words : t.InWords) :
      (Json.parse? t.fingerprintText).bind Snapshot.readTypes? =
        some (t.types.map fun t => (t.name, t)) := by
    rw [built.valid.parse?_fingerprintText words]
    exact built.valid.readTypes?_typesJson words
  refine ⟨⟨_, reads s built words, rfl, ?_⟩, ?_⟩
  · intro d perm
    rw [List.map_map] at perm
    obtain ⟨t, done, types⟩ := built.exists_build (perm.trans (.of_eq (List.map_id' s.types)))
    exact ⟨t, done, types, Snapshot.fingerprintText_of_types types⟩
  · intro t builtT wordsT
    have texts : s.fingerprintText = t.fingerprintText ↔ s.types = t.types := by
      constructor
      · intro same
        have decoded := reads s built words
        rw [same, reads t builtT wordsT] at decoded
        have types := congrArg (List.map Prod.snd) (Option.some.inj decoded)
        simpa [Function.comp_def] using types.symm
      · exact Snapshot.fingerprintText_of_types
    refine ⟨texts, ?_⟩
    intro apart
    exact (Checksum.ofText_inj apart).trans texts

/-- An enum of one value, which is below zero, and a message without fields. -/
def tides (word : String) : Snapshot where
  label := word
  version := none
  types := [
    .enum ⟨"acme.Tide", .proto2, [⟨-1, word⟩], .none⟩,
    .message ⟨"acme.Wave", .proto2, [], .none⟩]

/-- The low tides read back, they are built again from the last type to the first, and their
    checksum tells them from the ebbs. -/
theorem tides_are_told_apart :
    (Json.parse? (tides "LOW").fingerprintText).bind Snapshot.readTypes? = some [
        ("acme.Tide", .enum ⟨"acme.Tide", .proto2, [⟨-1, "LOW"⟩], .none⟩),
        ("acme.Wave", .message ⟨"acme.Wave", .proto2, [], .none⟩)] ∧
      (∃ t, Draft.build ⟨"rebuilt", none, (tides "LOW").types.reverse⟩ = .ok t ∧
        t.fingerprintText = (tides "LOW").fingerprintText) ∧
      (tides "LOW").checksum ≠ (tides "EBB").checksum := by
  have builtLow : (tides "LOW").IsBuilt :=
    ⟨⟨"LOW", none, (tides "LOW").types⟩, by decide +kernel⟩
  have builtEbb : (tides "EBB").IsBuilt :=
    ⟨⟨"EBB", none, (tides "EBB").types⟩, by decide +kernel⟩
  have words (word : String) : (tides word).InWords := by
    simp [Snapshot.InWords, tides, EnumValue.InWord, Digits.int32Min, Digits.int32Max]
  obtain ⟨⟨decoded, reads, rfl, rebuilds⟩, tells⟩ :=
    fingerprint_tells_types builtLow (words "LOW")
  have apart : ¬ Checksum.Collide (tides "LOW").fingerprintText (tides "EBB").fingerprintText := by
    rintro ⟨-, same⟩
    rw [Checksum.toList_eq, Checksum.toList_eq] at same
    -- the first words of the two digests differ already
    replace same := congrArg Sha256.State.a same
    revert same
    decide +kernel
  refine ⟨reads, ?_, ?_⟩
  · have reversed : (tides "LOW").types.reverse.Perm
        (((tides "LOW").types.map fun t => (t.name, t)).map Prod.snd) := by
      rw [List.map_map]
      exact (List.reverse_perm _).trans (.of_eq (List.map_id' _).symm)
    obtain ⟨t, done, -, text⟩ := rebuilds ⟨"rebuilt", none, (tides "LOW").types.reverse⟩ reversed
    exact ⟨t, done, text⟩
  · intro same
    have types := ((tells (tides "EBB") builtEbb (words "EBB")).2 apart).mp same
    revert types
    decide

end SchemaEvolution
