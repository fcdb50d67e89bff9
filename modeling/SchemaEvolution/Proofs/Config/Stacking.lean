import Mathlib
import SchemaEvolution.Config.Layer

/-! # What a stack of layers holds

An entry of a layer changes the key that its path begins with and leaves every other key alone.  So
what a stack holds under a key comes of the entries under its spellings alone, in the order of the
layers (`Layer.lookup_stack`): of the last of them if it says all that is to be held
(`Layer.entered_of_isPlain`), and if all of them are tables, of these as layers of their own
(`Layer.held_of_tables`).
-/

namespace SchemaEvolution

namespace KeyPath

/-- The name that a key begins with. -/
def front (k : String) : String :=
  match ofKey k with
  | .name n :: _ => n
  | _ => k

/-- The steps behind the name that a key begins with. -/
def inner (k : String) : List KeyStep := (ofKey k).tail

theorem exists_name_of_part? {cs : List Char} {steps : List KeyStep}
    (read : part? cs = some steps) : ∃ n path, steps = .name n :: path := by
  unfold part? at read
  split at read
  case h_1 => cases read
  case h_2 name subscripts _ =>
    split_ifs at read
    obtain ⟨indices, -, rfl⟩ := Option.map_eq_some_iff.mp read
    exact ⟨_, _, rfl⟩

/-- Every key begins with a name. -/
theorem ofKey_eq (k : String) : ofKey k = .name (front k) :: inner k := by
  have named : ∃ n path, ofKey k = .name n :: path := by
    unfold ofKey
    cases read : (k.toList.splitOn '.').mapM part? with
    | none => exact ⟨k, [], rfl⟩
    | some parts =>
        obtain ⟨cs, rest, cutted⟩ := List.exists_cons_of_ne_nil (List.splitOn_ne_nil '.' k.toList)
        rw [cutted, List.mapM_cons] at read
        obtain ⟨first, readFirst, read⟩ := Option.bind_eq_some_iff.mp read
        obtain ⟨others, -, same⟩ := Option.bind_eq_some_iff.mp read
        obtain ⟨n, path, rfl⟩ := exists_name_of_part? readFirst
        cases same
        exact ⟨n, path ++ others.flatten, rfl⟩
  obtain ⟨n, path, same⟩ := named
  rw [front, inner, same, List.tail_cons]

end KeyPath

namespace Layer

/-- The key that an entry is about, in lower case. -/
def spelling (entry : String × Toml) : String := LowerCase.ofString (KeyPath.front entry.1)

/-- What an entry makes of what is held under its key. -/
def entered (entry : String × Toml) (held : Option Toml) : Toml :=
  match KeyPath.inner entry.1 with
  | [] =>
    match entry.2 with
    | .table entries => merge entries (held.getD (.table []))
    | value => value
  | step :: path => setAt entry.2 (step :: path) (held.getD (.table []))

/-- Whether an entry says all that is to be held: a value that is no table, under a key that reaches
    no deeper. -/
def IsPlain (entry : String × Toml) : Prop :=
  KeyPath.inner entry.1 = [] ∧ ∀ entries, entry.2 ≠ .table entries

theorem entered_of_isPlain {entry : String × Toml} (plain : IsPlain entry) (held : Option Toml) :
    entered entry held = entry.2 := by
  obtain ⟨top, noTable⟩ := plain
  simp only [entered, top]

/-- Enter an entry under its key. -/
def enter (entries : Toml.Entries) (entry : String × Toml) : Toml.Entries :=
  Toml.put (spelling entry) (entered entry (entries.lookup (spelling entry))) entries

theorem setAt_ofKey (entry : String × Toml) (entries : Toml.Entries) :
    setAt entry.2 (KeyPath.ofKey entry.1) (.table entries) = .table (enter entries entry) := by
  rw [KeyPath.ofKey_eq, enter, entered, spelling]
  cases KeyPath.inner entry.1 with
  | nil =>
      rw [setAt]
      cases entry.2 with
      | table inner => rw [set, entriesOf]
      | _ => rw [set, entriesOf]; nofun
  | cons step path =>
      rw [setAt, entriesOf]
      nofun

theorem onto_eq_foldl (layer below : Layer) : onto layer below = layer.foldl enter below := by
  have tables (start : Toml.Entries) :
      layer.foldl (fun target entry => setAt entry.2 (KeyPath.ofKey entry.1) target)
        (.table start) = .table (layer.foldl enter start) := by
    induction layer generalizing start with
    | nil => rfl
    | cons entry rest ih => rw [List.foldl_cons, List.foldl_cons, setAt_ofKey, ih]
  calc onto layer below
    _ = entriesOf (.table (layer.foldl enter below)) := congrArg entriesOf (tables below)
    _ = layer.foldl enter below := rfl

/-- Where one layer ends and the next one begins does not matter. -/
theorem stack_eq_foldl (layers : List Layer) : stack layers = layers.flatten.foldl enter [] := by
  rw [stack, List.foldl_flatten]
  congr 1
  funext below layer
  exact onto_eq_foldl layer below

/-- What entries come to under one key, one after the other. -/
def held (k : String) (entries : Layer) : Option Toml :=
  (entries.filter fun entry => spelling entry == k).foldl
    (fun held entry => some (entered entry held)) none

section Holding

variable {k : String} {entries before after : Layer} {entry : String × Toml}

/-- An entry is seen under its own key only. -/
theorem lookup_enter (start : Toml.Entries) :
    (enter start entry).lookup k =
      if spelling entry == k then some (entered entry (start.lookup k)) else start.lookup k := by
  by_cases same : spelling entry = k
  · rw [if_pos (beq_iff_eq.mpr same), enter, same, Toml.lookup_put_self]
  · rw [if_neg (by simpa using same), enter, Toml.lookup_put_of_ne (Ne.symm same)]

theorem lookup_foldl_enter (start : Toml.Entries) :
    (entries.foldl enter start).lookup k =
      (entries.filter fun entry => spelling entry == k).foldl
        (fun held entry => some (entered entry held)) (start.lookup k) := by
  induction entries generalizing start with
  | nil => rfl
  | cons entry rest ih =>
      rw [List.foldl_cons, ih, lookup_enter, List.filter_cons]
      cases spelling entry == k <;> rfl

/-- A stack holds under a key what the entries come to that are about it. -/
theorem lookup_stack (layers : List Layer) (k : String) :
    (stack layers).lookup k = held k layers.flatten := by
  rw [stack_eq_foldl, lookup_foldl_enter]
  rfl

theorem held_append_cons (about : spelling entry = k)
    (last : ∀ other ∈ after, spelling other ≠ k) :
    held k (before ++ entry :: after) = some (entered entry (held k before)) := by
  have rest : (after.filter fun other => spelling other == k) = [] :=
    List.filter_eq_nil_iff.mpr (by simpa using last)
  rw [held, List.filter_append, List.filter_cons_of_pos (by simpa using about), rest,
    List.foldl_append]
  rfl

end Holding

section Tables

/-- Whether no key of a table is a path. -/
def NoPaths (entries : Toml.Entries) : Prop :=
  ∀ entry ∈ entries, KeyPath.ofKey entry.1 = [.name entry.1]

theorem merge_eq_foldl {new : Toml.Entries} (plain : NoPaths new) (below : Toml.Entries) :
    merge new (.table below) = .table (new.foldl enter below) := by
  induction new generalizing below with
  | nil => rw [merge, List.foldl_nil]
  | cons entry rest ih =>
      obtain ⟨first, others⟩ := List.forall_mem_cons.mp plain
      have entered : set entry.1 entry.2 (.table below) = .table (enter below entry) := by
        rw [← setAt_ofKey, first, setAt]
      rw [merge, entered, ih others, List.foldl_cons]

/-- An entry that sets a key to a table. -/
def tableEntry (table : String × Toml.Entries) : String × Toml := (table.1, .table table.2)

theorem entered_tableEntry {table : String × Toml.Entries} (top : KeyPath.inner table.1 = [])
    (plain : NoPaths table.2) (below : Toml.Entries) :
    entered (tableEntry table) (some (.table below)) = .table (table.2.foldl enter below) := by
  simp only [entered, tableEntry, top, Option.getD_some, merge_eq_foldl plain]

variable {tables : List (String × Toml.Entries)}

theorem foldl_entered_tables
    (plain : ∀ table ∈ tables, KeyPath.inner table.1 = [] ∧ NoPaths table.2)
    (below : Toml.Entries) :
    (tables.map tableEntry).foldl (fun held entry => some (entered entry held))
      (some (.table below)) = some (.table ((tables.map Prod.snd).flatten.foldl enter below)) := by
  induction tables generalizing below with
  | nil => rfl
  | cons table rest ih =>
      obtain ⟨⟨top, names⟩, others⟩ := List.forall_mem_cons.mp plain
      rw [List.map_cons, List.foldl_cons, entered_tableEntry top names, ih others, List.map_cons,
        List.flatten_cons, List.foldl_append]

/-- Tables under one key are layers of their own. -/
theorem held_of_tables {k : String} {entries : Layer}
    (parted : entries.filter (fun entry => spelling entry == k) = tables.map tableEntry)
    (filled : tables ≠ [])
    (plain : ∀ table ∈ tables, KeyPath.inner table.1 = [] ∧ NoPaths table.2) :
    held k entries = some (.table (stack (tables.map Prod.snd))) := by
  obtain ⟨table, rest, rfl⟩ := List.exists_cons_of_ne_nil filled
  -- nothing is held at first, which is as good as an empty table
  have start : held k entries = ((table :: rest).map tableEntry).foldl
      (fun held entry => some (entered entry held)) (some (.table [])) := by
    rw [held, parted]
    rfl
  rw [start, foldl_entered_tables plain, stack_eq_foldl]

end Tables

theorem keys_put (k : String) (value : Toml) (entries : Toml.Entries) :
    (Toml.put k value entries).map Prod.fst =
      if k ∈ entries.map Prod.fst then entries.map Prod.fst else entries.map Prod.fst ++ [k] := by
  induction entries with
  | nil => rfl
  | cons entry rest ih =>
      rw [Toml.put]
      split
      case isTrue same => simp [same]
      case isFalse differ =>
        rw [List.map_cons, ih, List.map_cons]
        by_cases known : k ∈ rest.map Prod.fst
        · rw [if_pos known, if_pos (List.mem_cons_of_mem _ known)]
        · rw [if_neg known, if_neg (by simp [Ne.symm differ]; simpa using known)]
          rfl

theorem mem_keys_foldl_enter {entries : Layer} {start : Toml.Entries} {k : String} :
    k ∈ (entries.foldl enter start).map Prod.fst ↔
      k ∈ start.map Prod.fst ∨ k ∈ entries.map spelling := by
  induction entries generalizing start with
  | nil => simp
  | cons entry rest ih =>
      rw [List.foldl_cons, ih, enter, keys_put, List.map_cons, List.mem_cons]
      split
      case isTrue known =>
        constructor
        · exact Or.imp_right .inr
        · rintro (old | rfl | new)
          · exact .inl old
          · exact .inl known
          · exact .inr new
      case isFalse =>
        rw [List.mem_append, List.mem_singleton, or_assoc]

/-- The keys of a stack are those that some entry is about. -/
theorem mem_keys_stack {layers : List Layer} {k : String} :
    k ∈ (stack layers).map Prod.fst ↔ k ∈ layers.flatten.map spelling := by
  rw [stack_eq_foldl, mem_keys_foldl_enter]
  simp

theorem nodup_keys_foldl_enter {entries : Layer} {start : Toml.Entries}
    (distinct : (start.map Prod.fst).Nodup) :
    ((entries.foldl enter start).map Prod.fst).Nodup := by
  induction entries generalizing start with
  | nil => exact distinct
  | cons entry rest ih =>
      refine ih ?_
      rw [enter, keys_put]
      split
      case isTrue => exact distinct
      case isFalse fresh =>
        exact List.nodup_append'.mpr ⟨distinct, List.nodup_singleton _, by simpa using fresh⟩

/-- A stack holds no key twice. -/
theorem nodup_keys_stack (layers : List Layer) : ((stack layers).map Prod.fst).Nodup := by
  rw [stack_eq_foldl]
  exact nodup_keys_foldl_enter .nil

end Layer

end SchemaEvolution
