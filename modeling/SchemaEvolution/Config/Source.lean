import SchemaEvolution.Config.Coercion
import SchemaEvolution.Files.Tree

/-! # Where settings come from

Configuration files at fixed places, a file that is named by the caller, and the environment.  The
place of a file may be given without the extension.
-/

namespace SchemaEvolution

/-- What a run can see of its surroundings. -/
structure Surroundings where
  files : FileTree
  environment : List (String × String)
  /-- The directory for the configuration of the user. -/
  configHome : Option String
  /-- What the standard output has against texts, if it takes none. -/
  outputFault : Option FileFault := none
  /-- What the standard error has against messages, if it takes none. -/
  messageFault : Option FileFault := none
deriving Repr, DecidableEq

namespace Settings

/-- The places of configuration files in the working directory. -/
def places : List String :=
  ["proto-compat.toml", ".proto-compat.toml", "config/proto-compat.toml"]

/-- The place of the configuration file of the user. -/
def userPlace (configHome : String) : String := configHome ++ "/proto-compat/proto-compat.toml"

/-- A path with an extension behind its last name. -/
def withExtension? (path : String) : Option String :=
  let steps := ((Location.steps path).reverse.dropWhile fun s => s = "" || s = ".").reverse
  match steps.getLast? with
  | none | some ".." => none
  | some name => some (String.intercalate "/" (steps.dropLast ++ [name ++ ".toml"]))

/-- The text of the configuration file at a place. -/
def textAt? (files : FileTree) (path : String) : Option String :=
  match files.find path with
  | .ok (.file location content) =>
    if (location.getLast?.bind Location.extension?) = some "toml" then content.text? else none
  | _ => (withExtension? path).bind files.read?

/-- The layer of the configuration file at a place. -/
def layerAt (files : FileTree) (required : Bool) (path : String) : Except Failure Layer :=
  match textAt? files path with
  | none => if required then .error .malformedConfig else .ok []
  | some text =>
    match Toml.parse? text with
    | none => .error .malformedConfig
    | some entries => .ok entries

/-- The layers of a run, the first one at the bottom. -/
def layers (around : Surroundings) (path : Option String) : Except Failure (List Layer) := do
  let fixed ← places.mapM (layerAt around.files false)
  let user := (around.configHome.map userPlace).filter around.files.has
  let users ← user.toList.mapM (layerAt around.files false)
  let named ← path.toList.mapM (layerAt around.files true)
  return fixed ++ users ++ named ++ [Environment.layer around.environment]

def load (around : Surroundings) (path : Option String) : Except Failure Settings := do
  ofLayers (← layers around path)

end Settings

end SchemaEvolution
