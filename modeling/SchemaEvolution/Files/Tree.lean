import SchemaEvolution.Failure
import SchemaEvolution.Text.NameSet

/-! # File trees

The files and directories that a run can see, by the names on the way to them from the working
directory.  A path outside of the working directory begins with its slash or with two dots.  A file
may be there without being readable, and an entry of a directory may lead nowhere.
-/

namespace SchemaEvolution

/-- The names on the way to a file or a directory. -/
abbrev Location := List String

/-- What a file holds. -/
inductive Content
  | text (text : String)
  /-- Something that cannot be read. -/
  | sealed (fault : FileFault)
deriving Repr, DecidableEq

/-- Why a walk through directories does not get past an entry. -/
inductive Obstacle
  /-- The entry cannot be followed, such as a link that leads nowhere, or not be listed. -/
  | refused (fault : FileFault)
  /-- The entry leads back to a directory that it is in. -/
  | circle (above : Location)
deriving Repr, DecidableEq

/-- The files and directories that can be seen. -/
structure FileTree where
  files : List (Location × Content)
  /-- Directories, whether or not they hold files. -/
  directories : List Location
  /-- Entries of directories, or directories, that stop whoever walks through all of them. -/
  obstacles : List (Location × Obstacle) := []
  /-- Where no file can be written although a directory is there for it. -/
  locked : List (Location × FileFault) := []
deriving Repr, DecidableEq

/-- What a path leads to. -/
inductive Place
  | file (location : Location) (content : Content)
  | directory (location : Location)
deriving Repr, DecidableEq

namespace Location

/-- The parts of a path between slashes. -/
def steps (path : String) : List String := (path.toList.splitOn '/').map String.ofList

/-- The order of locations: name by name, a directory in front of what it holds. -/
def before : Location → Location → Bool
  | [], [] => false
  | [], _ :: _ => true
  | _ :: _, [] => false
  | a :: as, b :: bs => nameBefore a b || (a == b && before as bs)

/-- The part of a name behind its last dot, unless the dot is its first character. -/
def extension? (name : String) : Option String :=
  let reversed := name.toList.reverse
  match reversed.dropWhile (· ≠ '.') with
  | [] | ['.'] => none
  | _ => some (String.ofList (reversed.takeWhile (· ≠ '.')).reverse)

end Location

/-- The text of a file that can be read. -/
def Content.text? : Content → Option String
  | text content => some content
  | sealed _ => none

namespace FileTree

def empty : FileTree := { files := [], directories := [] }

/-- Whether a location is a directory: the working directory or one above it, the root, one that
    is listed, or one that holds something. -/
def isDirectory (t : FileTree) (location : Location) : Bool :=
  location.all (· == "..") || location == ["/"] || t.directories.any location.isPrefixOf ||
    (t.files.any fun (file, _) => location.isPrefixOf file && location != file) ||
    t.obstacles.any fun (entry, _) => location.isPrefixOf entry && location != entry

def parent (location : Location) : Location :=
  match location.getLast? with
  | none | some ".." => location ++ [".."]
  | some "/" => location
  | some _ => location.dropLast

/-- Whether a name has more than 255 bytes, which no file or directory can have. -/
def isLongName (name : String) : Bool := 255 < name.utf8ByteSize

/-- Whether a path has more than 4095 bytes, which leads nowhere. -/
def isLongPath (path : String) : Bool := 4095 < path.utf8ByteSize

def walk (t : FileTree) (here : Location) : List String → Except FileFault Place
  | [] => .ok (.directory here)
  | "" :: rest | "." :: rest => t.walk here rest
  | ".." :: rest =>
    if t.isDirectory (parent here) then t.walk (parent here) rest else .error .notFound
  | name :: rest =>
    let next := here ++ [name]
    match t.files.lookup next with
    | some content => if rest.isEmpty then .ok (.file next content) else .error .notADirectory
    | none =>
      if t.isDirectory next then t.walk next rest
      else .error (if isLongName name then .nameTooLong else .notFound)

def find (t : FileTree) (path : String) : Except FileFault Place :=
  if isLongPath path then .error .nameTooLong
  else
    match Location.steps path with
    | [""] => .error .notFound
    | "" :: rest => t.walk ["/"] rest
    | steps => t.walk [] steps

/-- The text of the file that a path leads to. -/
def read? (t : FileTree) (path : String) : Option String :=
  match t.find path with
  | .ok (.file _ content) => content.text?
  | _ => none

def has (t : FileTree) (path : String) : Bool := (t.find path).isOk

/-- The files below a directory with an extension, by their locations from there, in order. -/
def filesBelow (t : FileTree) (directory : Location) (extension : String) :
    List (Location × Content) :=
  let below := t.files.filterMap fun (file, content) =>
    if directory.isPrefixOf file then some (file.drop directory.length, content) else none
  let wanted := below.filter fun (file, _) =>
    (file.getLast?.bind Location.extension?) = some extension
  Sorted.sortStable (fun a b => !Location.before b.1 a.1) wanted

/-- The first thing that stops a walk below a directory, by its location from there. -/
def obstacleBelow? (t : FileTree) (directory : Location) : Option (Location × Obstacle) :=
  (t.obstacles.find? fun (entry, _) => directory.isPrefixOf entry).map fun (entry, obstacle) =>
    (entry.drop directory.length, obstacle)

/-- Put a file at a location, in place of the one that is there. -/
def put (t : FileTree) (location : Location) (content : Content) : FileTree :=
  { t with files := (t.files.filter fun (file, _) => file != location) ++ [(location, content)] }

/-- Write the file at a path.  The directory that it is in has to be there. -/
def write (t : FileTree) (path content : String) : Except FileFault FileTree :=
  let steps := Location.steps path
  let trimmed := (steps.reverse.dropWhile (· = "")).reverse
  if isLongPath path then .error .nameTooLong
  else
    match trimmed.getLast? with
    | none => .error (if path.isEmpty then .notFound else .isADirectory)
    | some name =>
      let front := trimmed.dropLast
      let above := if front.isEmpty then .ok (.directory [])
        else if front = [""] then t.find "/"
        else t.find (String.intercalate "/" front)
      match above with
      | .error fault => .error fault
      | .ok (.file _ _) => .error .notADirectory
      | .ok (.directory directory) =>
        let location := directory ++ [name]
        if name = "." || name = ".." || trimmed ≠ steps || t.isDirectory location then
          .error .isADirectory
        else if isLongName name then .error .nameTooLong
        else
          match t.locked.lookup location with
          | some fault => .error fault
          | none => .ok (t.put location (.text content))

example : Location.extension? "a.json" = some "json" ∧ Location.extension? ".json" = none := by
  decide +kernel

end FileTree

end SchemaEvolution
