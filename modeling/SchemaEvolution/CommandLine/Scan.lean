/-! # Options and arguments

The lexical rules of a command line.  An option has a long name behind two dashes and may have a
letter behind one; letters may be run together.  Its value is the rest of the word, behind an
equals sign or directly behind the letter, or else the next word, which may not begin with a dash
unless it is one.  Two dashes alone end the options.
-/

namespace SchemaEvolution.CommandLine

/-- What an option does. -/
inductive Effect
  /-- It stands for itself. -/
  | flag
  /-- It takes a value that passes a test. -/
  | takesValue (accepts : String → Bool)
  /-- It asks for help. -/
  | showHelp
  /-- It asks for the version. -/
  | showVersion

/-- An option that may be given. -/
structure Spec where
  long : String
  letter : Option Char
  effect : Effect
  /-- Whether the option may be given more than once. -/
  repeatable : Bool := false

/-- What may be given at one level of a command line. -/
structure Level where
  specs : List Spec
  arguments : Nat := 0
  /-- Whether a command follows, which ends the level. -/
  hasCommands : Bool := false

/-- What was given. -/
inductive Given
  | option (long value : String)
  | argument (text : String)
deriving Repr, DecidableEq

/-- Why nothing is run. -/
inductive Refusal
  | usage
  | help
  | version
deriving Repr, DecidableEq

namespace Given

def hasOption (long : String) (given : List Given) : Bool :=
  given.any fun g =>
    match g with
    | option other _ => other == long
    | argument _ => false

/-- The values that were given to an option. -/
def values (long : String) (given : List Given) : List String :=
  given.filterMap fun g =>
    match g with
    | option other value => if other = long then some value else none
    | argument _ => none

def arguments (given : List Given) : List String :=
  given.filterMap fun g =>
    match g with
    | option _ _ => none
    | argument text => some text

end Given

/-- Whether a word can be the value of the option in front of it. -/
def isValue (word : String) : Bool := !word.startsWith "-" || word == "-"

def note (spec : Spec) (value : String) (given : List Given) : Except Refusal (List Given) :=
  if !spec.repeatable && Given.hasOption spec.long given then .error .usage
  else
    match spec.effect with
    | .takesValue accepts =>
      if accepts value then .ok (given ++ [.option spec.long value]) else .error .usage
    | _ => .ok (given ++ [.option spec.long value])

def noteArgument (level : Level) (text : String) (given : List Given) :
    Except Refusal (List Given) :=
  if text.isEmpty || level.arguments ≤ (Given.arguments given).length then .error .usage
  else .ok (given ++ [.argument text])

def noteArguments (level : Level) (given : List Given) (texts : List String) :
    Except Refusal (List Given) :=
  texts.foldlM (fun given text => noteArgument level text given) given

/-- Note the option that a long name stands for.  If the option still waits for its value, it is
    returned. -/
def readLong (level : Level) (given : List Given) (word : List Char) :
    Except Refusal (List Given × Option Spec) := do
  let name := String.ofList (word.takeWhile (· ≠ '='))
  let attached := match word.dropWhile (· ≠ '=') with
    | '=' :: rest => some (String.ofList rest)
    | _ => none
  match level.specs.find? (·.long == name) with
  | none => throw .usage
  | some spec =>
    match spec.effect, attached with
    | .takesValue _, none => return (given, some spec)
    | .takesValue _, some value => return (← note spec value given, none)
    | _, some _ => throw .usage
    | .flag, none => return (← note spec "" given, none)
    | .showHelp, none => throw .help
    | .showVersion, none => throw .version

/-- Note the options that letters stand for.  If the last one still waits for its value, it is
    returned. -/
def readLetters (level : Level) (given : List Given) :
    List Char → Except Refusal (List Given × Option Spec)
  | [] => .ok (given, none)
  | c :: rest => do
    match level.specs.find? (·.letter == some c) with
    | none => throw .usage
    | some spec =>
      match spec.effect, rest with
      | .takesValue _, [] => return (given, some spec)
      | .takesValue _, '=' :: value => return (← note spec (String.ofList value) given, none)
      | .takesValue _, value => return (← note spec (String.ofList value) given, none)
      | .flag, rest => readLetters level (← note spec "" given) rest
      | .showHelp, _ => throw .help
      | .showVersion, _ => throw .version

/-- Read one word that begins with a dash. -/
def readOption (level : Level) (given : List Given) (word : List Char) :
    Except Refusal (List Given × Option Spec) :=
  match word with
  | '-' :: '-' :: rest => readLong level given rest
  | _ :: rest => readLetters level given rest
  | [] => .error .usage

/-- Read the words of a level.  What is left begins with the name of a command, if one follows. -/
def scan (level : Level) (given : List Given) :
    List String → Except Refusal (List Given × List String)
  | [] => .ok (given, [])
  | word :: rest =>
    if word == "--" then do
      if level.hasCommands && !rest.isEmpty then throw .usage
      return (← noteArguments level given rest, [])
    else if isValue word then
      if level.hasCommands then .ok (given, word :: rest)
      else do scan level (← noteArgument level word given) rest
    else do
      match ← readOption level given word.toList, rest with
      | (given, none), rest => scan level given rest
      | (_, some _), [] => throw .usage
      | (given, some spec), value :: rest =>
        if isValue value then scan level (← note spec value given) rest else throw .usage

end SchemaEvolution.CommandLine
