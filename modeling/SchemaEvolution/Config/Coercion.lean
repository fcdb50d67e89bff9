import SchemaEvolution.Config.Layer
import SchemaEvolution.Config.Option
import SchemaEvolution.Config.Settings

/-! # Settings out of layers

The values of the options are taken as generously as they can be understood: a number for a truth
value, a word for a number, any case for a name.  Of two spellings of one option the one that comes
later in the order of keys is taken as a whole.  Names that no option has are refused first.
-/

namespace SchemaEvolution

namespace Toml

def truthWord? (word : String) : Option Bool :=
  if ["true", "on", "yes"].contains word then some true
  else if ["false", "off", "no"].contains word then some false
  else none

/-- A value as a word of 64 bits. -/
def word64? : Toml → Option Nat
  | integer n => if 0 ≤ n then some n.toNat else none
  | bool b => some b.toNat
  | float x => some (x.toNatWithin Digits.word64Max.toNat)
  | string text =>
    match truthWord? (LowerCase.ofString text) with
    | some b => some b.toNat
    | none =>
      match text.toList with
      | '-' :: _ => none
      | cs => (Digits.integerWithin? 0 Digits.word64Max cs).map Int.toNat
  | moment _ | array _ | table _ => none

def bool? : Toml → Option Bool
  | bool b => some b
  | integer n => some (n ≠ 0)
  | float x => some x.nonzero
  | string text =>
    let lowered := LowerCase.ofString text
    if lowered = "1" then some true
    else if lowered = "0" then some false
    else truthWord? lowered
  | moment _ | array _ | table _ => none

def string? : Toml → Option String
  | string text | moment text => some text
  | bool b => some (if b then "true" else "false")
  | integer n => some (String.ofList (Digits.writeInt n))
  | float x => some (String.ofList (Shortest.plain x))
  | array _ | table _ => none

/-- A value as a list of texts. -/
def strings? : Toml → Option (List String)
  | array items => items.mapM string?
  | _ => none

/-- A value as one of some names in any case, alone or as the key of a table of one entry. -/
def variant? {α : Type} (names : List (String × α)) : Toml → Option α
  | string text | table [(text, _)] => names.lookup (LowerCase.ofString text)
  | _ => none

/-- A value as severities under texts, in the order of texts. -/
def severities? : Toml → Option (List (String × Severity))
  | table entries => do
    let decisions ← entries.mapM fun (k, value) => (variant? Severity.table value).map (k, ·)
    return Settings.overridesOf decisions
  | _ => none

end Toml

namespace Settings

/-- Entries in the order of their keys. -/
def inOrder (entries : Toml.Entries) : Toml.Entries :=
  Sorted.sortStable (fun a b => !nameBefore b.1 a.1) entries

def options (entries : Toml.Entries) : Except Failure (List (ConfigOption × Toml)) :=
  (inOrder entries).mapM fun (k, value) =>
    match ConfigOption.find? k with
    | some option => .ok (option, value)
    | none => .error (.unknownOption k)

/-- The value that is set for an option: the last one. -/
def chosen? (set : List (ConfigOption × Toml)) (option : ConfigOption) : Option Toml :=
  set.reverse.lookup option

/-- Read the value of an option where one is set. -/
def withDefault? {α : Type} (set : List (ConfigOption × Toml)) (option : ConfigOption)
    (absent : α) (read? : Toml → Option α) : Option α :=
  match chosen? set option with
  | none => some absent
  | some value => read? value

def ofOptions? (set : List (ConfigOption × Toml)) : Option Settings := do
  let standard : Settings := {}
  let fieldCountThreshold ←
    withDefault? set .fieldCountThreshold standard.fieldCountThreshold Toml.word64?
  let treatAdvisoryAsError ←
    withDefault? set .treatAdvisoryAsError standard.treatAdvisoryAsError Toml.bool?
  let ruleAllowlist ← withDefault? set .ruleAllowlist standard.ruleAllowlist Toml.strings?
  let ruleDenylist ← withDefault? set .ruleDenylist standard.ruleDenylist Toml.strings?
  let integerNarrowing ←
    withDefault? set .integerNarrowing standard.integerNarrowing (Toml.variant? Narrowing.table)
  let workers ← withDefault? set .workers standard.workers fun value => value.word64?.map some
  let severityOverrides ←
    withDefault? set .severityOverrides standard.severityOverrides Toml.severities?
  return { fieldCountThreshold, treatAdvisoryAsError, ruleAllowlist, ruleDenylist,
           integerNarrowing, workers, severityOverrides }

/-- The settings that layers come to, the last one on top. -/
def ofLayers (layers : List Layer) : Except Failure Settings := do
  let set ← options (Layer.stack layers)
  match ofOptions? set with
  | none => throw .malformedConfig
  | some settings =>
    settings.validate
    return settings

/-- The settings of a TOML document alone. -/
def ofToml (text : String) : Except Failure Settings :=
  match Toml.parse? text with
  | none => .error .malformedConfig
  | some entries => ofLayers [entries]

end Settings

end SchemaEvolution
