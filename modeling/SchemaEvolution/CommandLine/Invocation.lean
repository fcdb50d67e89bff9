import SchemaEvolution.CommandLine.Scan
import SchemaEvolution.Config.Settings
import SchemaEvolution.Report.Prose

/-! # Invocations

What the command line may ask for: to check two snapshots, to list the rules, to show the settings
or to write the standard ones.  A configuration file may be named at every level; the deepest one
counts.
-/

namespace SchemaEvolution.CommandLine

/-- What a check is asked to do. -/
structure CheckOptions where
  base : String
  candidate : String
  format : OutputFormat
  /-- Where the report goes; to the standard output if nowhere else. -/
  output : Option String
  treatAdvisoryAsError : Bool
  workers : Option Nat
  rules : List String
  skippedRules : List String
deriving Repr, DecidableEq

/-- What is asked for. -/
inductive Command
  | check (options : CheckOptions)
  | rules
  | showConfig
  | initConfig (path : String) (force : Bool)
deriving Repr, DecidableEq

/-- A command with the configuration file that is named. -/
structure Invocation where
  configFile : Option String
  command : Command
deriving Repr, DecidableEq

def anyPath (value : String) : Bool := !value.isEmpty

/-- The number of workers that a text stands for. -/
def workers? (text : String) : Option Nat :=
  match text.toList with
  | '-' :: _ => none
  | cs => (Digits.integerWithin? 0 Digits.word64Max cs).map Int.toNat

def everywhere : List Spec :=
  [⟨"config", some 'c', .takesValue anyPath, false⟩, ⟨"help", some 'h', .showHelp, false⟩]

/-- The level in front of the command. -/
def rootLevel : Level :=
  { specs := ⟨"version", some 'V', .showVersion, false⟩ :: everywhere, hasCommands := true }

def checkLevel : Level :=
  { specs :=
      [⟨"base", some 'b', .takesValue anyPath, false⟩,
       ⟨"candidate", some 'n', .takesValue anyPath, false⟩,
       ⟨"format", some 'f', .takesValue fun text => (OutputFormat.read text).isOk, false⟩,
       ⟨"output", some 'o', .takesValue anyPath, false⟩,
       ⟨"treat-advisory-as-error", none, .flag, false⟩,
       ⟨"workers", some 'w', .takesValue fun text => (workers? text).isSome, false⟩,
       ⟨"rule", none, .takesValue fun _ => true, true⟩,
       ⟨"skip-rule", none, .takesValue fun _ => true, true⟩] ++ everywhere }

/-- A level with no options of its own. -/
def plainLevel : Level := { specs := everywhere }

/-- The level in front of what to do with the configuration. -/
def configLevel : Level := { specs := everywhere, hasCommands := true }

def initLevel : Level :=
  { specs := ⟨"force", none, .flag, false⟩ :: everywhere, arguments := 1 }

/-- The configuration file that a level names. -/
def configOf (given : List Given) : Option String := (Given.values "config" given).head?

def checkOptions (given : List Given) : Except Refusal CheckOptions := do
  let value? (long : String) := (Given.values long given).head?
  let some base := value? "base" | throw .usage
  let some candidate := value? "candidate" | throw .usage
  let format := ((value? "format").bind fun text => (OutputFormat.read text).toOption).getD .text
  return { base, candidate, format
           output := value? "output"
           treatAdvisoryAsError := Given.hasOption "treat-advisory-as-error" given
           workers := (value? "workers").bind workers?
           rules := Given.values "rule" given
           skippedRules := Given.values "skip-rule" given }

/-- What the configuration command has help on, by the words behind its help command. -/
def configTopics : List (List String) := [[], ["show"], ["init"], ["help"]]

/-- What there is help on, by the words behind the help command. -/
def topics : List (List String) :=
  [[], ["check"], ["rules"], ["help"]] ++ configTopics.map ("config" :: ·)

def askHelp (topics : List (List String)) (words : List String) : Refusal :=
  if topics.contains words then .help else .usage

def configCommand (outer : Option String) (words : List String) : Except Refusal Invocation := do
  let (given, rest) ← scan configLevel [] words
  let outer := (configOf given).or outer
  match rest with
  | "show" :: rest =>
    let (given, _) ← scan plainLevel [] rest
    return ⟨(configOf given).or outer, .showConfig⟩
  | "init" :: rest =>
    let (given, _) ← scan initLevel [] rest
    let path := (Given.arguments given).head?.getD "proto-compat.toml"
    return ⟨(configOf given).or outer, .initConfig path (Given.hasOption "force" given)⟩
  | "help" :: rest => throw (askHelp configTopics rest)
  | _ => throw .usage

def parse (words : List String) : Except Refusal Invocation := do
  let (given, rest) ← scan rootLevel [] words
  let outer := configOf given
  match rest with
  | "check" :: rest =>
    let (given, _) ← scan checkLevel [] rest
    return ⟨(configOf given).or outer, .check (← checkOptions given)⟩
  | "rules" :: rest =>
    let (given, _) ← scan plainLevel [] rest
    return ⟨(configOf given).or outer, .rules⟩
  | "config" :: rest => configCommand outer rest
  | "help" :: rest => throw (askHelp topics rest)
  | _ => throw .usage

/-- The settings of a check, from those of the configuration. -/
def CheckOptions.apply (o : CheckOptions) (s : Settings) : Settings :=
  { s with
    treatAdvisoryAsError := s.treatAdvisoryAsError || o.treatAdvisoryAsError
    workers := o.workers.or s.workers
    ruleAllowlist := if o.rules.isEmpty then s.ruleAllowlist else o.rules
    ruleDenylist := s.ruleDenylist ++ o.skippedRules }

end SchemaEvolution.CommandLine
