import SchemaEvolution.Files.Corpus
import SchemaEvolution.Proofs.Config.Selection
import SchemaEvolution.Proofs.Schema.Fingerprint

/-! # How a corpus is cut into documents

What a corpus says is which types its documents declare, taken together, and which versions.
Reading one document after the other gathers just that (`Corpus.Gathers`), and it goes wrong only
where a version cannot be read or differs from another one.  Neither depends on which document says
what, or on the order of documents.  Main statement: `arrangement_does_not_matter`.
-/

namespace SchemaEvolution

section Versions

/-- The versions that descriptors declare, one for each descriptor that declares any, and nothing in
    place of a text that is no version. -/
def Descriptor.declared (descriptors : List Descriptor) : List (Option Version) :=
  descriptors.filterMap fun d => d.version.map fun text => (Version.read text).toOption

theorem Descriptor.declared_append (before after : List Descriptor) :
    declared (before ++ after) = declared before ++ declared after :=
  List.filterMap_append

/-- Whether all of some declarations can be read and are one. -/
def Version.Agree (declared : List (Option Version)) : Prop := ∃ v, ∀ w ∈ declared, w = some v

end Versions

namespace Corpus

/-- Whether a document can be read and is a descriptor, and which. -/
def Spells (document : String × Content) (d : Descriptor) : Prop :=
  ∃ text, document.2 = .text text ∧ Descriptor.parse text = .ok d

/-- Whether all of some documents are descriptors, and which. -/
def Parses (documents : List (String × Content)) (descriptors : List Descriptor) : Prop :=
  List.Forall₂ Spells documents descriptors

/-- Whether a path leads to documents, at least one, that are all descriptors, and to which. -/
def Holds (files : FileTree) (path : String) (descriptors : List Descriptor) : Prop :=
  ∃ found, documents files path = .ok found ∧ found ≠ [] ∧ Parses found descriptors

/-- Whether a corpus says what some descriptors say: it has their types, and the one version that
    they declare if they declare any. -/
structure Gathers (c : Corpus) (descriptors : List Descriptor) : Prop where
  types : c.types = descriptors.flatMap Descriptor.types
  told : ∀ v ∈ Descriptor.declared descriptors, v ≠ none ∧ v = c.version.map Prod.fst
  silent : Descriptor.declared descriptors = [] → c.version = none

section Reading

variable {c next : Corpus} {label name text : String} {document : String × Content}
  {d : Descriptor} {before descriptors : List Descriptor} {documents : List (String × Content)}

/-- A version is taken if it can be read and there is no other one. -/
theorem declare_eq_ok_iff : c.declare label name text = .ok next ↔
    ∃ v, Version.read text = .ok v ∧ next.types = c.types ∧
      ((c.version = none ∧ next.version = some (v, name)) ∨
        ∃ origin, c.version = some (v, origin) ∧ next.version = some (v, origin)) := by
  obtain ⟨types, version⟩ := c
  obtain ⟨nextTypes, nextVersion⟩ := next
  unfold declare
  cases read : Version.read text with
  | error fault => simp
  | ok v =>
      rcases version with _ | ⟨existing, origin⟩
      · simp [eq_comm]
      · by_cases same : existing = v <;> simp [same, eq_comm]

/-- A descriptor is read if its version is taken, and its types come behind the others. -/
theorem read_eq_ok_iff (spelled : Spells document d) :
    read label c document = .ok next ↔ next.types = c.types ++ d.types ∧
      ((d.version = none ∧ next.version = c.version) ∨
        ∃ text v, d.version = some text ∧ Version.read text = .ok v ∧
          ((c.version = none ∧ next.version = some (v, document.1)) ∨
            ∃ origin, c.version = some (v, origin) ∧ next.version = some (v, origin))) := by
  obtain ⟨name, content⟩ := document
  obtain ⟨text, rfl, parsed⟩ := spelled
  obtain ⟨nextTypes, nextVersion⟩ := next
  simp only [read, parsed]
  cases declares : d.version with
  | none => simp [bind, Except.bind, pure, Except.pure, eq_comm]
  | some text =>
      simp only [bind_eq_ok_iff, declare_eq_ok_iff, pure, Except.pure, Except.ok.injEq, mk.injEq]
      constructor
      · rintro ⟨middle, ⟨v, read, types, version⟩, rfl, rfl⟩
        exact ⟨by rw [types], .inr ⟨text, v, rfl, read, version⟩⟩
      · rintro ⟨rfl, ⟨none, -⟩ | ⟨_, v, same, read, version⟩⟩
        · cases none
        · cases same
          exact ⟨⟨c.types, nextVersion⟩, ⟨v, read, rfl, version⟩, rfl, rfl⟩

theorem gathers_empty : empty.Gathers [] where
  types := rfl
  told _ member := by cases member
  silent _ := rfl

/-- A corpus without a version was told none. -/
theorem Gathers.declared_eq_nil (gathers : c.Gathers before) (none : c.version = none) :
    Descriptor.declared before = [] := by
  refine List.eq_nil_iff_forall_not_mem.mpr fun v member => ?_
  obtain ⟨readable, same⟩ := gathers.told v member
  exact readable (by rw [same, none]; rfl)

/-- The version of a corpus is one that it was told. -/
theorem Gathers.mem_declared (gathers : c.Gathers before) {v : Version} {origin : String}
    (known : c.version = some (v, origin)) : some v ∈ Descriptor.declared before := by
  obtain ⟨w, rest, told⟩ : ∃ w rest, Descriptor.declared before = w :: rest := by
    apply List.exists_cons_of_ne_nil
    intro untold
    rw [gathers.silent untold] at known
    cases known
  have member : w ∈ Descriptor.declared before := told ▸ List.mem_cons_self
  have same : w = some v := by rw [(gathers.told w member).2, known]; rfl
  exact same ▸ member

/-- What is gathered behind one more document. -/
theorem Gathers.read (gathers : c.Gathers before) (spelled : Spells document d)
    (done : read label c document = .ok next) : next.Gathers (before ++ [d]) := by
  obtain ⟨types, version⟩ := (read_eq_ok_iff spelled).mp done
  have allTypes : next.types = (before ++ [d]).flatMap Descriptor.types := by
    rw [types, gathers.types, List.flatMap_append, List.flatMap_singleton]
  rcases version with ⟨undeclared, same⟩ | ⟨text, v, declares, read, taken⟩
  · have declared : Descriptor.declared (before ++ [d]) = Descriptor.declared before := by
      simp [Descriptor.declared, undeclared]
    exact ⟨allTypes, by rw [declared, same]; exact gathers.told,
      by rw [declared, same]; exact gathers.silent⟩
  · have declared :
        Descriptor.declared (before ++ [d]) = Descriptor.declared before ++ [some v] := by
      simp [Descriptor.declared, declares, read, Except.toOption]
    have now : next.version.map Prod.fst = some v := by
      rcases taken with ⟨-, now⟩ | ⟨origin, -, now⟩ <;> rw [now] <;> rfl
    have earlier : ∀ w ∈ Descriptor.declared before, w = some v := by
      rcases taken with ⟨none, -⟩ | ⟨origin, known, -⟩
      · simp [gathers.declared_eq_nil none]
      · intro w member
        rw [(gathers.told w member).2, known]
        rfl
    refine ⟨allTypes, ?_, by simp [declared]⟩
    intro w member
    rw [declared, List.mem_append, List.mem_singleton] at member
    have same : w = some v := member.elim (earlier w) id
    exact ⟨by simp [same], by rw [same, now]⟩

/-- A document is read if its version agrees with the ones before. -/
theorem Gathers.exists_read (label : String) (gathers : c.Gathers before)
    (spelled : Spells document d)
    (agree : Version.Agree (Descriptor.declared (before ++ [d]))) :
    ∃ next, Corpus.read label c document = .ok next := by
  obtain ⟨w, same⟩ := agree
  cases declares : d.version with
  | none => exact ⟨⟨_, c.version⟩, (read_eq_ok_iff spelled).mpr ⟨rfl, .inl ⟨declares, rfl⟩⟩⟩
  | some text =>
      have readable : (Version.read text).toOption = some w := by
        refine same _ ?_
        simp [Descriptor.declared, declares]
      cases read : Version.read text with
      | error fault =>
          rw [read] at readable
          cases readable
      | ok v =>
          rw [read] at readable
          cases readable
          rcases known : c.version with _ | ⟨v, origin⟩
          · exact ⟨⟨_, some (w, document.1)⟩, (read_eq_ok_iff spelled).mpr
              ⟨rfl, .inr ⟨text, w, declares, read, .inl ⟨known, rfl⟩⟩⟩⟩
          · have told : some v ∈ Descriptor.declared (before ++ [d]) := by
              rw [Descriptor.declared_append]
              exact List.mem_append_left _ (gathers.mem_declared known)
            obtain rfl : v = w := Option.some.inj (same _ told)
            exact ⟨⟨_, some (v, origin)⟩, (read_eq_ok_iff spelled).mpr
              ⟨rfl, .inr ⟨text, v, declares, read, .inr ⟨origin, known, rfl⟩⟩⟩⟩

theorem Gathers.foldlM (gathers : c.Gathers before) (parses : Parses documents descriptors)
    (done : documents.foldlM (Corpus.read label) c = .ok next) :
    next.Gathers (before ++ descriptors) := by
  induction parses generalizing c before with
  | nil =>
      cases done
      rw [List.append_nil]
      exact gathers
  | @cons document d documents descriptors spelled parses ih =>
      rw [List.foldlM_cons] at done
      obtain ⟨middle, first, rest⟩ := bind_eq_ok_iff.mp done
      rw [List.append_cons]
      exact ih (gathers.read spelled first) rest

theorem Gathers.exists_foldlM (label : String) (gathers : c.Gathers before)
    (parses : Parses documents descriptors)
    (agree : Version.Agree (Descriptor.declared (before ++ descriptors))) :
    ∃ last, documents.foldlM (Corpus.read label) c = .ok last := by
  induction parses generalizing c before with
  | nil => exact ⟨c, rfl⟩
  | @cons document d documents descriptors spelled parses ih =>
      rw [List.append_cons] at agree
      have sooner : Version.Agree (Descriptor.declared (before ++ [d])) := by
        obtain ⟨v, same⟩ := agree
        refine ⟨v, fun w member => same w ?_⟩
        rw [Descriptor.declared_append]
        exact List.mem_append_left _ member
      obtain ⟨middle, first⟩ := gathers.exists_read label spelled sooner
      obtain ⟨last, rest⟩ := ih (gathers.read spelled first) agree
      exact ⟨last, by rw [List.foldlM_cons]; exact bind_eq_ok_iff.mpr ⟨middle, first, rest⟩⟩

/-- What was gathered agrees. -/
theorem Gathers.agree (gathers : c.Gathers descriptors) :
    Version.Agree (Descriptor.declared descriptors) := by
  rcases known : c.version with _ | ⟨v, origin⟩
  · exact ⟨.release 0 0 0, by simp [gathers.declared_eq_nil known]⟩
  · refine ⟨v, fun w member => ?_⟩
    rw [(gathers.told w member).2, known]
    rfl

/-- The version that is gathered depends on which ones are declared, not on where or how often. -/
theorem Gathers.version_eq {others : List Descriptor} (gathers : c.Gathers descriptors)
    (gathersOthers : next.Gathers others)
    (same : ∀ v, v ∈ Descriptor.declared descriptors ↔ v ∈ Descriptor.declared others) :
    c.version.map Prod.fst = next.version.map Prod.fst := by
  rcases known : c.version with _ | ⟨v, origin⟩
  · have untold : Descriptor.declared others = [] := by
      refine List.eq_nil_iff_forall_not_mem.mpr fun v member => ?_
      rw [← same, gathers.declared_eq_nil known] at member
      cases member
    rw [gathersOthers.silent untold]
  · exact (gathersOthers.told _ ((same _).mp (gathers.mem_declared known))).2

end Reading

section Loading

variable {files others : FileTree} {path otherPath : String}
  {descriptors otherDescriptors : List Descriptor} {s : Snapshot}

/-- A corpus is loaded exactly if its types make a snapshot and its versions agree. -/
theorem load_eq_ok_iff (holds : Holds files path descriptors) :
    load files path = .ok s ↔ Version.Agree (Descriptor.declared descriptors) ∧
      Acceptable (descriptors.flatMap Descriptor.types) ∧
      ∃ c : Corpus, c.Gathers descriptors ∧ s =
        ⟨path, c.version.map Prod.fst, Draft.inOrder (descriptors.flatMap Descriptor.types)⟩ := by
  obtain ⟨found, leads, some, parses⟩ := holds
  have filled : found.isEmpty = false := List.isEmpty_eq_false_iff.mpr some
  have loads : load files path = found.foldlM (read path) empty >>= fun c =>
      Draft.build { label := path, version := c.version.map Prod.fst, types := c.types } := by
    unfold load
    rw [leads]
    simp only [snapshot, filled, Bool.false_eq_true, ↓reduceIte]
  rw [loads, bind_eq_ok_iff]
  constructor
  · rintro ⟨c, done, built⟩
    have gathers : c.Gathers descriptors := gathers_empty.foldlM parses done
    obtain ⟨acceptable, rfl⟩ := Draft.build_eq_ok_iff_acceptable.mp built
    exact ⟨gathers.agree, gathers.types ▸ acceptable, c, gathers, by rw [← gathers.types]; rfl⟩
  · rintro ⟨agree, acceptable, c, gathers, rfl⟩
    obtain ⟨last, done⟩ := gathers_empty.exists_foldlM path parses agree
    have gathersLast : last.Gathers descriptors := gathers_empty.foldlM parses done
    refine ⟨last, done, Draft.build_eq_ok_iff_acceptable.mpr ⟨gathersLast.types ▸ acceptable, ?_⟩⟩
    rw [Draft.ordered, gathersLast.types, gathersLast.version_eq gathers fun _ => Iff.rfl]

/-- What is loaded from one arrangement is loaded from another one. -/
theorem exists_load_of_arranged (holds : Holds files path descriptors)
    (holdsOthers : Holds others otherPath otherDescriptors)
    (types : (descriptors.flatMap Descriptor.types).Perm
      (otherDescriptors.flatMap Descriptor.types))
    (versions : ∀ v, v ∈ Descriptor.declared descriptors ↔ v ∈ Descriptor.declared otherDescriptors)
    (loaded : load files path = .ok s) :
    ∃ t, load others otherPath = .ok t ∧ t.types = s.types ∧ t.version = s.version := by
  obtain ⟨⟨v, same⟩, acceptable, c, gathers, rfl⟩ := (load_eq_ok_iff holds).mp loaded
  have agree : Version.Agree (Descriptor.declared otherDescriptors) :=
    ⟨v, fun w member => same w ((versions w).mpr member)⟩
  obtain ⟨found, leads, some, parses⟩ := holdsOthers
  obtain ⟨last, done⟩ := gathers_empty.exists_foldlM otherPath parses agree
  have gathersLast : last.Gathers otherDescriptors := gathers_empty.foldlM parses done
  refine ⟨_, (load_eq_ok_iff ⟨found, leads, some, parses⟩).mpr
    ⟨agree, acceptable.perm types, last, gathersLast, rfl⟩, ?_, ?_⟩
  · exact (Draft.inOrder_eq_of_perm types acceptable.distinct).symm
  · exact (gathers.version_eq gathersLast versions).symm

end Loading

end Corpus

/-- Two paths lead to documents that declare the same types, however often each, and the same
    versions, wherever.  Then a snapshot is loaded from both or from neither, and it has the same
    types, the same version and the same checksum. -/
theorem arrangement_does_not_matter {files others : FileTree} {path otherPath : String}
    {descriptors otherDescriptors : List Descriptor}
    (holds : Corpus.Holds files path descriptors)
    (holdsOthers : Corpus.Holds others otherPath otherDescriptors)
    (types : (descriptors.flatMap Descriptor.types).Perm
      (otherDescriptors.flatMap Descriptor.types))
    (versions :
      ∀ v, v ∈ Descriptor.declared descriptors ↔ v ∈ Descriptor.declared otherDescriptors) :
    ((∃ s, Corpus.load files path = .ok s) ↔ ∃ t, Corpus.load others otherPath = .ok t) ∧
    ∀ s t, Corpus.load files path = .ok s → Corpus.load others otherPath = .ok t →
      s.types = t.types ∧ s.version = t.version ∧ s.checksum = t.checksum := by
  constructor
  · constructor
    · rintro ⟨s, loaded⟩
      obtain ⟨t, loadedOther, -⟩ :=
        Corpus.exists_load_of_arranged holds holdsOthers types versions loaded
      exact ⟨t, loadedOther⟩
    · rintro ⟨t, loaded⟩
      obtain ⟨s, loadedOther, -⟩ := Corpus.exists_load_of_arranged holdsOthers holds types.symm
        (fun v => (versions v).symm) loaded
      exact ⟨s, loadedOther⟩
  · intro s t loaded loadedOther
    obtain ⟨u, loadedAgain, sameTypes, sameVersion⟩ :=
      Corpus.exists_load_of_arranged holds holdsOthers types versions loaded
    obtain rfl : u = t := Except.ok.inj (loadedAgain.symm.trans loadedOther)
    refine ⟨sameTypes.symm, sameVersion.symm, ?_⟩
    rw [Snapshot.checksum, Snapshot.checksum, Snapshot.fingerprintText_of_types sameTypes]

/-- A document that declares a message and the enum that it refers to. -/
def lampDocument : Json := .object [("package", .string "acme"), ("syntax", .string "proto3"),
  ("version", .string "v1.2.0"),
  ("messages", .array [.object [("name", .string "Lamp"), ("fields", .array [.object [
    ("number", .int 1), ("name", .string "hue"),
    ("type", .object [("enum", .string ".acme.Hue")])]])]]),
  ("enums", .array [.object [("name", .string "Hue"), ("values", .array [.object [
    ("number", .int 0), ("name", .string "WHITE")]])]])]

/-- A document that declares the message alone, with a dialect of its own. -/
def bareLampDocument : Json := .object [("package", .string "acme"), ("version", .string "1.2.0"),
  ("messages", .array [.object [("name", .string "Lamp"), ("syntax", .string "proto3"),
    ("fields", .array [.object [("number", .int 1), ("name", .string "hue"),
      ("type", .object [("enum", .string "acme.Hue")])]])]])]

/-- A document that declares the enum alone, without a package. -/
def hueDocument : Json := .object [("syntax", .string "proto3"),
  ("enums", .array [.object [("name", .string "acme.Hue"), ("values", .array [.object [
    ("number", .int 0), ("name", .string "WHITE")]])]])]

def lamps : FileTree where
  files := [
    (["w", "lamp.json"], .text lampDocument.compact),
    (["p", "z.json"], .text hueDocument.compact),
    (["p", "a", "lamp.json"], .text bareLampDocument.compact),
    (["p", "NOTES.md"], .text "not a document")]
  directories := []

/-- The message and the enum in one descriptor. -/
def lampDescriptor : Descriptor where
  package := "acme"
  dialect := .proto3
  version := some "v1.2.0"
  messages := [⟨"Lamp", none, [⟨1, "hue", .enum ".acme.Hue", .singular, false, none⟩], .none⟩]
  enums := [⟨"Hue", none, [⟨0, "WHITE"⟩], .none⟩]

/-- The message in a descriptor of its own. -/
def bareLampDescriptor : Descriptor where
  package := "acme"
  dialect := .proto2
  version := some "1.2.0"
  messages :=
    [⟨"Lamp", some .proto3, [⟨1, "hue", .enum "acme.Hue", .singular, false, none⟩], .none⟩]
  enums := []

/-- The enum in a descriptor of its own. -/
def hueDescriptor : Descriptor where
  package := ""
  dialect := .proto3
  version := none
  messages := []
  enums := [⟨"acme.Hue", none, [⟨0, "WHITE"⟩], .none⟩]

theorem Corpus.holds_whole : Holds lamps "w" [lampDescriptor] := by
  have leads : documents lamps "w" = .ok [("w/lamp.json", .text lampDocument.compact)] := by
    decide +kernel
  exact ⟨_, leads, List.cons_ne_nil _ _, .cons ⟨_, rfl, by decide +kernel⟩ .nil⟩

theorem Corpus.holds_parts : Holds lamps "p" [bareLampDescriptor, hueDescriptor] := by
  have leads : documents lamps "p" = .ok [("p/a/lamp.json", .text bareLampDocument.compact),
      ("p/z.json", .text hueDocument.compact)] := by decide +kernel
  exact ⟨_, leads, List.cons_ne_nil _ _,
    .cons ⟨_, rfl, by decide +kernel⟩ (.cons ⟨_, rfl, by decide +kernel⟩ .nil)⟩

/-- Lamps are loaded alike from one document and from two in different directories. -/
theorem lamps_are_loaded_whole_and_in_parts :
    Corpus.Holds lamps "w" [lampDescriptor] ∧
      Corpus.Holds lamps "p" [bareLampDescriptor, hueDescriptor] ∧
      ∃ s t, Corpus.load lamps "w" = .ok s ∧ Corpus.load lamps "p" = .ok t ∧
        s.names = ["acme.Hue", "acme.Lamp"] ∧ s.types = t.types ∧ s.version = t.version ∧
        s.checksum = t.checksum := by
  have declared : Descriptor.declared [lampDescriptor] =
      Descriptor.declared [bareLampDescriptor, hueDescriptor] := by decide +kernel
  obtain ⟨loads, same⟩ := arrangement_does_not_matter Corpus.holds_whole Corpus.holds_parts
    (by decide +kernel) fun v => by rw [declared]
  have built : Draft.build ⟨"w", none, lampDescriptor.types⟩ =
      .ok ⟨"w", none, Draft.inOrder lampDescriptor.types⟩ := by decide +kernel
  have gathers : Corpus.Gathers ⟨lampDescriptor.types, some (.release 1 2 0, "w/lamp.json")⟩
      [lampDescriptor] := ⟨rfl, by decide +kernel, by decide +kernel⟩
  have loaded := (Corpus.load_eq_ok_iff Corpus.holds_whole).mpr
    ⟨gathers.agree, (Draft.build_eq_ok_iff_acceptable.mp built).1, _, gathers, rfl⟩
  obtain ⟨t, loadedParts⟩ := loads.mp ⟨_, loaded⟩
  exact ⟨Corpus.holds_whole, Corpus.holds_parts, _, t, loaded, loadedParts, by decide +kernel,
    same _ t loaded loadedParts⟩

end SchemaEvolution
