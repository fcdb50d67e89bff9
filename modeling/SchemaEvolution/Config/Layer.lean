import SchemaEvolution.Config.KeyPath
import SchemaEvolution.Decimal.Shortest
import SchemaEvolution.Text.LowerCase
import SchemaEvolution.Toml.Reader

/-! # Layers of configuration

A configuration comes in layers: files, then the environment.  Keys are compared in lower case.
A later layer wins key by key; tables are merged, and everything else is replaced.  A key of a
layer that is a path reaches into tables and lists.
-/

namespace SchemaEvolution

/-- The entries that one source of configuration sets. -/
abbrev Layer := Toml.Entries

namespace Layer

/-- The entries of a value, if it is a table. -/
def entriesOf : Toml → Toml.Entries
  | .table entries => entries
  | _ => []

/-- The items of a value, if it is a list. -/
def itemsOf : Toml → List Toml
  | .array items => items
  | _ => []

mutual

/-- Set a key of a value, which becomes a table if it is none.  A table is merged into what the
    key holds, anything else takes its place. -/
def set (k : String) (value target : Toml) : Toml :=
  let k := LowerCase.ofString k
  let entries := entriesOf target
  match value with
  | .table inner =>
    .table (Toml.put k (merge inner ((entries.lookup k).getD (.table []))) entries)
  | value => .table (Toml.put k value entries)

/-- Set keys of a value one after the other.  Without a key the value stays as it is. -/
def merge (new : List (String × Toml)) (target : Toml) : Toml :=
  match new with
  | [] => target
  | (k, value) :: rest => merge rest (set k value target)

end

/-- Change an item of a list, counted from the back if the index is negative.  A list that is too
    short is filled up with empty tables. -/
def changeItem (index : Int) (change : Toml → Toml) (items : List Toml) : List Toml :=
  let place := if index < 0 then items.length - index.natAbs else index.natAbs
  let filled := items ++ List.replicate (place + 1 - items.length) (.table [])
  filled.modify place change

/-- Set what is at the end of a path.  What is on the way becomes a table or a list if it is none,
    and a value at the end of a subscript takes the place of the item. -/
def setAt (value : Toml) : List KeyStep → Toml → Toml
  | [], target => target
  | [.name k], target => set k value target
  | [.item index], target => .array (changeItem index (fun _ => value) (itemsOf target))
  | .name k :: path, target =>
    let k := LowerCase.ofString k
    let entries := entriesOf target
    .table (Toml.put k (setAt value path ((entries.lookup k).getD (.table []))) entries)
  | .item index :: path, target =>
    .array (changeItem index (setAt value path) (itemsOf target))

/-- Put a layer on top of others. -/
def onto (layer below : Layer) : Layer :=
  entriesOf (layer.foldl (fun target (k, value) => setAt value (KeyPath.ofKey k) target)
    (.table below))

/-- All layers in one, the last one on top. -/
def stack (layers : List Layer) : Layer := layers.foldl (fun below layer => onto layer below) []

end Layer

namespace Environment

/-- How the names of variables begin that belong to the configuration, in lower case. -/
def marker : List Char := "proto_compat__".toList

/-- The options whose text is a list with commas. -/
def listKeys : List String := ["rule_allowlist", "rule_denylist"]

/-- The key that a name sets; two underscores stand for a dot. -/
def key? (name : String) : Option String :=
  let lowered := (LowerCase.ofString name).toList
  if marker.isPrefixOf lowered then some (String.ofList (dotted (lowered.drop marker.length)))
  else none
where
  /-- Dots in place of pairs of underscores. -/
  dotted : List Char → List Char
    | '_' :: '_' :: rest => '.' :: dotted rest
    | c :: rest => c :: dotted rest
    | [] => []

/-- The value of a text: a truth value, an integer, a float, a list for some keys, or the text. -/
def value (k text : String) : Toml :=
  let lowered := LowerCase.ofString text
  if lowered = "true" then .bool true
  else if lowered = "false" then .bool false
  else
    match Digits.integerWithin? Digits.int64Min Digits.int64Max text.toList with
    | some n => .integer n
    | none =>
      match Binary64.read? text.toList with
      | some x => .float x
      | none =>
        if listKeys.contains k then .array ((text.splitOn ",").map .string) else .string text

/-- The layer of a set of variables. -/
def layer (environment : List (String × String)) : Layer :=
  environment.filterMap fun (name, text) => (key? name).map fun k => (k, value k text)

end Environment

end SchemaEvolution
