import SchemaEvolution.Proofs.Json.Records
import SchemaEvolution.Schema.Codec

/-! # Types read back

A type reads back from what it is written to, although members without content are left out, the
kind stands among the other members and all members are sorted (`TypeDef.ofJson?_toJson`).  The
numbers have to fit into the words that a reader expects them in.
-/

namespace SchemaEvolution

section Words

/-- Whether the ends of all ranges are signed words of 64 bits. -/
def Reservations.InWords (r : Reservations) : Prop :=
  ∀ range ∈ r.ranges, (Digits.int64Min ≤ range.start ∧ range.start ≤ Digits.int64Max) ∧
    Digits.int64Min ≤ range.stop ∧ range.stop ≤ Digits.int64Max

/-- Whether the tag number is an unsigned word of 32 bits. -/
def Field.InWord (f : Field) : Prop := (f.number : Int) ≤ Digits.word32Max

/-- Whether the number is a signed word of 32 bits. -/
def EnumValue.InWord (v : EnumValue) : Prop :=
  Digits.int32Min ≤ v.number ∧ v.number ≤ Digits.int32Max

/-- Whether every number of a type fits into the word that is meant for it. -/
def TypeDef.InWords : TypeDef → Prop
  | .message m => (∀ f ∈ m.fields, f.InWord) ∧ m.reserved.InWords
  | .enum e => (∀ v ∈ e.values, v.InWord) ∧ e.reserved.InWords

end Words

section Reading

theorem FieldType.ofJson?_toJson (enclosure : Json.Enclosure) (t : FieldType) :
    ofJson? enclosure t.toJson.sorted = some t := by
  cases t with
  | scalar kind => cases kind <;> rfl
  | message name | enum name | group name => rfl

theorem ReservedRange.ofJson?_toJson {range : ReservedRange}
    (start : Digits.int64Min ≤ range.start ∧ range.start ≤ Digits.int64Max)
    (stop : Digits.int64Min ≤ range.stop ∧ range.stop ≤ Digits.int64Max) :
    ofJson? range.toJson.sorted = some range := by
  obtain ⟨written, same, read, found⟩ := @Json.record?_sorted
    [("start", .int range.start), ("end", .int range.stop)] ["start", "end"] false (by simp)
    (by simp)
  rw [toJson, same]
  simp [ofJson?, read, found, List.lookup_cons, Json.Members.required?, Json.sorted, Json.int,
    Json.intWithin?, start, stop]

theorem NameSet.ofList_toList (s : NameSet) : ofList s.toList = s := by
  apply ext_mem
  intro name
  rw [Bool.eq_iff_iff, contains_ofList, contains, List.contains_iff_mem]

theorem Reservations.ofJson?_toJson {r : Reservations} (fits : r.InWords) :
    ofJson? r.toJson.sorted = some r := by
  have ranges : Json.list? ReservedRange.ofJson?
      (Json.array (r.ranges.map ReservedRange.toJson)).sorted = some r.ranges :=
    Json.list?_sorted fun range member =>
      ReservedRange.ofJson?_toJson (fits range member).1 (fits range member).2
  have names : Json.list? Json.string? (Json.strings r.names.toList).sorted =
      some r.names.toList := Json.list?_sorted fun name _ => rfl
  obtain ⟨written, same, read, found⟩ := @Json.record?_sorted
    ((if r.ranges.isEmpty then [] else [("ranges", .array (r.ranges.map ReservedRange.toJson))]) ++
      (if r.names.isEmpty then [] else [("names", .strings r.names.toList)]))
    ["ranges", "names"] true (by split_ifs <;> simp) (by split_ifs <;> simp)
  have readRanges : written.withDefault? "ranges" [] (Json.list? ReservedRange.ofJson?) =
      some r.ranges := by
    rw [Json.Members.withDefault?, found]
    cases none : r.ranges.isEmpty with
    | false => simp [ranges]
    | true =>
        rw [List.isEmpty_iff.mp none]
        cases r.names.isEmpty <;> simp [List.lookup_cons]
  have readNames : written.withDefault? "names" [] (Json.list? Json.string?) =
      some r.names.toList := by
    rw [Json.Members.withDefault?, found]
    cases none : r.names.isEmpty with
    | false => cases r.ranges.isEmpty <;> simp [List.lookup_cons, names]
    | true =>
        rw [List.isEmpty_iff.mp none]
        cases r.ranges.isEmpty <;> simp [List.lookup_cons]
  rw [toJson, same]
  simp [ofJson?, read, readRanges, readNames, NameSet.ofList_toList]

theorem Field.ofJson?_toJson (enclosure : Json.Enclosure) {f : Field} (fits : f.InWord) :
    ofJson? enclosure f.toJson.sorted = some f := by
  obtain ⟨number, name, type, cardinality, packed, default⟩ := f
  replace fits : (number : Int) ≤ Digits.word32Max := fits
  have type? := FieldType.ofJson?_toJson enclosure type
  have cardinality? : Cardinality.ofJson? enclosure (.string cardinality.text) =
      some cardinality := by
    cases cardinality <;> rfl
  have number? : number? (Json.nat number).sorted = some number := by
    have low : (0 : Int) ≤ number := Int.natCast_nonneg number
    simp [number?, Json.nat, Json.int, Json.sorted, Json.intWithin?, low, fits]
  obtain ⟨written, same, read, found⟩ := @Json.record?_sorted
    ([("number", .nat number), ("name", .string name), ("type", type.toJson),
      ("cardinality", .string cardinality.text)] ++
      (if packed then [("packed", .bool true)] else []) ++
      default.toList.map fun text => ("default", .string text))
    keys true (by cases packed <;> cases default <;> simp)
    (by cases packed <;> cases default <;> simp [keys])
  rw [show (toJson ⟨number, name, type, cardinality, packed, default⟩).sorted = .object written
    by cases default <;> exact same]
  cases packed <;> cases default <;>
    simp [ofJson?, read, found, List.lookup_cons, Json.Members.required?,
      Json.Members.withDefault?, Json.Members.optional?, number?, type?, cardinality?, Json.sorted,
      Json.string?, Json.bool?]

theorem EnumValue.ofJson?_toJson {v : EnumValue} (fits : v.InWord) :
    ofJson? v.toJson.sorted = some v := by
  obtain ⟨low, high⟩ := fits
  obtain ⟨written, same, read, found⟩ := @Json.record?_sorted
    [("number", .int v.number), ("name", .string v.name)] ["number", "name"] true (by simp)
    (by simp)
  rw [toJson, same]
  simp [ofJson?, read, found, List.lookup_cons, Json.Members.required?, Json.sorted, number?,
    Json.int, Json.intWithin?, Json.string?, low, high]

theorem Reservations.eq_none_of_isEmpty {r : Reservations} (empty : r.isEmpty = true) :
    r = .none := by
  obtain ⟨ranges, names⟩ := r
  obtain ⟨noRange, noName⟩ := Bool.and_eq_true_iff.mp empty
  obtain rfl : ranges = [] := List.isEmpty_iff.mp noRange
  obtain rfl : names = .empty := by
    rw [← NameSet.ofList_toList names, List.isEmpty_iff.mp noName]
    rfl
  rfl

/-- Reservations read back from their member, or from its absence. -/
theorem Reservations.withDefault?_toMembers {r : Reservations} (fits : r.InWords)
    {written : Json.Members}
    (found : written.lookup "reserved" = (r.toMembers.lookup "reserved").map Json.sorted) :
    written.withDefault? "reserved" .none ofJson? = some r := by
  rw [Json.Members.withDefault?, found, toMembers]
  cases empty : r.isEmpty with
  | true => simp [eq_none_of_isEmpty empty]
  | false => simp [ofJson?_toJson fits]

theorem Dialect.ofJson?_text (d : Dialect) : ofJson? .tagged (.string d.text) = some d := by
  cases d <;> rfl

theorem Reservations.map_fst_toMembers (r : Reservations) :
    r.toMembers.map Prod.fst = [] ∨ r.toMembers.map Prod.fst = ["reserved"] := by
  unfold toMembers
  split
  · exact .inl rfl
  · exact .inr rfl

/-- What a message and an enum have in common reads back, and their members are found under the key
    that they are written under. -/
theorem TypeDef.read_definition {tag name key : String} {dialect : Dialect} {items : Json}
    {reserved : Reservations} (fits : reserved.InWords)
    (other : key ∉ ["kind", "name", "syntax", "reserved"]) :
    ∃ written : Json.Members,
      Json.tagged? "kind" (Json.object ([("kind", .string tag), ("name", .string name),
        ("syntax", .string dialect.text), (key, items)] ++ reserved.toMembers)).sorted =
          some (.string tag, .object written) ∧
      Json.record? ["name", "syntax", key, "reserved"] false (.object written) = some written ∧
      written.required? "name" Json.string? = some name ∧
      written.withDefault? "syntax" .proto2 (Dialect.ofJson? .tagged) = some dialect ∧
      written.lookup key = some items.sorted ∧
      written.withDefault? "reserved" .none Reservations.ofJson? = some reserved := by
  simp only [List.mem_cons, List.not_mem_nil, or_false, not_or] at other
  obtain ⟨kind, named, syntactic, set⟩ := other
  have keys := reserved.map_fst_toMembers
  obtain ⟨written, parts, perm⟩ := @Json.tagged?_sorted
    ([("name", .string name), ("syntax", .string dialect.text), (key, items)] ++
      reserved.toMembers) "kind" (.string tag)
    (by rcases keys with keys | keys <;>
      simp [keys, Ne.symm kind, Ne.symm named, Ne.symm syntactic, set])
  obtain ⟨read, found⟩ := @Json.record?_of_perm ["name", "syntax", key, "reserved"] false _ _ perm
    (by rcases keys with keys | keys <;>
      simp [keys, Ne.symm named, Ne.symm syntactic, set])
    (by rcases keys with keys | keys <;> simp [keys])
  refine ⟨written, parts, read, ?_, ?_, ?_, reserved.withDefault?_toMembers fits ?_⟩
  · simp [Json.Members.required?, found, Json.sorted, Json.string?]
  · simp [Json.Members.withDefault?, found, List.lookup_cons, Json.sorted, Dialect.ofJson?_text]
  · have apart : (key == "name") = false ∧ (key == "syntax") = false :=
      ⟨beq_eq_false_iff_ne.mpr named, beq_eq_false_iff_ne.mpr syntactic⟩
    simp [found, List.lookup_cons, apart]
  · have apart : ("reserved" == key) = false := beq_eq_false_iff_ne.mpr (Ne.symm set)
    simp [found, List.lookup_cons, apart]

/-- A type reads back from the members that it is written to, in the order of their keys. -/
theorem TypeDef.ofJson?_toJson {t : TypeDef} (fits : t.InWords) :
    ofJson? t.toJson.sorted = some t := by
  cases t with
  | message m =>
      obtain ⟨fieldsFit, reservedFit⟩ := fits
      obtain ⟨written, parts, read, name, dialect, found, reserved⟩ :=
        @read_definition "message" m.name "fields" m.dialect (.array (m.fields.map Field.toJson))
          m.reserved reservedFit (by simp)
      have fields : written.withDefault? "fields" [] (Json.list? (Field.ofJson? .tagged)) =
          some m.fields := by
        rw [Json.Members.withDefault?, found]
        exact Json.list?_sorted fun f member => Field.ofJson?_toJson .tagged (fieldsFit f member)
      rw [ofJson?, toJson, parts]
      simp [MessageType.ofJson?, read, name, dialect, fields, reserved]
  | enum e =>
      obtain ⟨valuesFit, reservedFit⟩ := fits
      obtain ⟨written, parts, read, name, dialect, found, reserved⟩ :=
        @read_definition "enum" e.name "values" e.dialect (.array (e.values.map EnumValue.toJson))
          e.reserved reservedFit (by simp)
      have values : written.withDefault? "values" [] (Json.list? EnumValue.ofJson?) =
          some e.values := by
        rw [Json.Members.withDefault?, found]
        exact Json.list?_sorted fun v member => EnumValue.ofJson?_toJson (valuesFit v member)
      rw [ofJson?, toJson, parts]
      simp [EnumType.ofJson?, read, name, dialect, values, reserved]

end Reading

section Depth

variable {depth : Nat}

theorem JsonNumber.inWord_of_int64 {n : Int}
    (fits : Digits.int64Min ≤ n ∧ n ≤ Digits.int64Max) : InWord n := by
  have wider : Digits.int64Max ≤ Digits.word64Max := by decide
  exact ⟨fits.1, fits.2.trans wider⟩

theorem FieldType.fits_toJson (t : FieldType) : Json.Fits (depth + 1) t.toJson := by
  cases t with
  | scalar kind => exact .string _
  | message name | enum name | group name =>
      refine .object ?_
      simp only [List.mem_singleton, forall_eq]
      exact .string name

theorem Field.fits_toJson {f : Field} (fits : f.InWord) : Json.Fits (depth + 2) f.toJson := by
  have number : JsonNumber.InWord f.number := by
    have low : Digits.int64Min ≤ 0 := by decide
    have wider : Digits.word32Max ≤ Digits.word64Max := by decide
    exact ⟨low.trans (Int.natCast_nonneg _), fits.trans wider⟩
  refine .object ?_
  cases f.packed <;> cases f.default <;>
    simp [Json.nat, Json.Fits.integer number, Json.Fits.string, Json.Fits.bool,
      FieldType.fits_toJson]

theorem EnumValue.fits_toJson {v : EnumValue} (fits : v.InWord) :
    Json.Fits (depth + 1) v.toJson := by
  have number : JsonNumber.InWord v.number := by
    have low : Digits.int64Min ≤ Digits.int32Min := by decide
    have wider : Digits.int32Max ≤ Digits.word64Max := by decide
    exact ⟨low.trans fits.1, fits.2.trans wider⟩
  refine .object ?_
  simp [Json.Fits.integer number, Json.Fits.string]

theorem Reservations.fits_toJson {r : Reservations} (fits : r.InWords) :
    Json.Fits (depth + 3) r.toJson := by
  have ranges : Json.Fits (depth + 2) (.array (r.ranges.map ReservedRange.toJson)) := by
    refine .array ?_
    rw [List.forall_mem_map]
    intro range member
    obtain ⟨start, stop⟩ := fits range member
    refine .object ?_
    simp [Json.Fits.integer (JsonNumber.inWord_of_int64 start),
      Json.Fits.integer (JsonNumber.inWord_of_int64 stop)]
  have names : Json.Fits (depth + 2) (.strings r.names.toList) := Json.fits_strings _
  refine .object ?_
  cases r.ranges.isEmpty <;> cases r.names.isEmpty <;> simp [ranges, names]

theorem Reservations.fits_toMembers {r : Reservations} (fits : r.InWords) :
    ∀ m ∈ r.toMembers, Json.Fits (depth + 3) m.2 := by
  unfold toMembers
  split
  · simp
  · simpa using r.fits_toJson fits

theorem TypeDef.fits_toJson {t : TypeDef} (fits : t.InWords) : Json.Fits (depth + 4) t.toJson := by
  cases t with
  | message m =>
      obtain ⟨fieldsFit, reservedFit⟩ := fits
      have fields : Json.Fits (depth + 3) (.array (m.fields.map Field.toJson)) := by
        refine .array ?_
        rw [List.forall_mem_map]
        exact fun f member => Field.fits_toJson (fieldsFit f member)
      refine .object ?_
      rw [List.forall_mem_append]
      refine ⟨?_, m.reserved.fits_toMembers reservedFit⟩
      simp [Json.Fits.string, fields]
  | enum e =>
      obtain ⟨valuesFit, reservedFit⟩ := fits
      have values : Json.Fits (depth + 3) (.array (e.values.map EnumValue.toJson)) := by
        refine .array ?_
        rw [List.forall_mem_map]
        exact fun v member => EnumValue.fits_toJson (valuesFit v member)
      refine .object ?_
      rw [List.forall_mem_append]
      refine ⟨?_, e.reserved.fits_toMembers reservedFit⟩
      simp [Json.Fits.string, values]

end Depth

end SchemaEvolution
