import SchemaEvolution.Files.Tree
import SchemaEvolution.Schema.Descriptor
import SchemaEvolution.Schema.Validity

/-! # Corpora

A snapshot is loaded from one descriptor document or from all documents of a directory, in the
order of their locations.  Documents may declare the version of the snapshot; those that do have
to agree.
-/

namespace SchemaEvolution

/-- What documents have said so far. -/
structure Corpus where
  types : List TypeDef
  /-- The version with the document that declared it first. -/
  version : Option (Version × String)
deriving Repr, DecidableEq

namespace Corpus

def empty : Corpus := ⟨[], none⟩

/-- Take the version that a document declares. -/
def declare (c : Corpus) (label name text : String) : Except Failure Corpus :=
  match Version.read text with
  | .error fault => .error (.version fault)
  | .ok declared =>
    match c.version with
    | none => .ok { c with version := some (declared, name) }
    | some (existing, origin) =>
      if existing = declared then .ok c
      else .error (.invalidSnapshot label (.versionConflict name declared origin existing))

/-- Read a document behind the ones that were read. -/
def read (label : String) (c : Corpus) (document : String × Content) : Except Failure Corpus :=
  match document with
  | (_, .sealed fault) => .error (.file fault)
  | (name, .text text) =>
    match Descriptor.parse text with
    | .error _ => .error (.invalidSnapshot label (.unreadable name))
    | .ok descriptor => do
      let c ← match descriptor.version with
        | none => .ok c
        | some text => c.declare label name text
      return { c with types := c.types ++ descriptor.types }

def snapshot (label : String) (documents : List (String × Content)) :
    Except Failure Snapshot := do
  if documents.isEmpty then throw (.invalidSnapshot label .noDescriptors)
  let corpus ← documents.foldlM (read label) empty
  Draft.build { label, version := corpus.version.map Prod.fst, types := corpus.types }

/-- A path with a location behind it. -/
def joined (path : String) (location : Location) : String :=
  if location.isEmpty then path
  else (if path.endsWith "/" then path else path ++ "/") ++ String.intercalate "/" location

/-- What is wrong with a directory, at a path, that cannot be walked through. -/
def defectOf (path : String) (directory entry : Location) : Obstacle → Defect
  | .refused fault => .impassable (joined path entry) fault
  | .circle above => .circular (joined path entry) (joined path (above.drop directory.length))

/-- The documents that a path leads to, by name.  An entry of a directory that cannot be read is
    not passed over, whether or not it would be a document. -/
def documents (files : FileTree) (path : String) : Except Defect (List (String × Content)) :=
  match files.find path with
  | .error _ => .error .noSuchPath
  | .ok (.file _ content) => .ok [(path, content)]
  | .ok (.directory directory) =>
    match files.obstacleBelow? directory with
    | some (entry, obstacle) => .error (defectOf path directory entry obstacle)
    | none => .ok ((files.filesBelow directory "json").map fun (location, content) =>
        (joined path location, content))

/-- Load the snapshot that a path leads to. -/
def load (files : FileTree) (path : String) : Except Failure Snapshot :=
  match documents files path with
  | .error defect => .error (.invalidSnapshot path defect)
  | .ok documents => snapshot path documents

end Corpus

end SchemaEvolution
