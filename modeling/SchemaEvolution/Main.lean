import SchemaEvolution.CommandLine.Run

/-! # The program

Gathers what a run may look at, carries the run out, and hands out what it leaves behind.
-/

namespace SchemaEvolution.CommandLine

/-- The paths that a run looks at, without what is below them. -/
def Invocation.paths (i : Invocation) (configHome : Option String) : List String :=
  let configs := Settings.places ++ (configHome.map Settings.userPlace).toList ++
    i.configFile.toList
  let others := match i.command with
    | .check options => options.output.toList
    | .initConfig path _ => [path]
    | _ => []
  configs ++ configs.filterMap Settings.withExtension? ++ others

/-- The paths that a run looks at, with everything below them. -/
def Invocation.corpora (i : Invocation) : List String :=
  match i.command with
  | .check options => [options.base, options.candidate]
  | _ => []

def locate (steps : List String) : Location :=
  steps.zipIdx.foldl (fun here (step, index) =>
    if step = "" then (if index = 0 then ["/"] else here)
    else if step = "." then here
    else if step = ".." then FileTree.parent here
    else here ++ [step]) []

/-- Whether a path leads to a directory. -/
def isDirectory (path : String) : IO Bool := do
  let here ← IO.currentDir
  (here / path).isDir

def isThere (path : String) : IO Bool := do
  let here ← IO.currentDir
  (here / path).pathExists

def namesIn (path : String) : IO (List String) := do
  let here ← IO.currentDir
  return (← (here / path).readDir).toList.map (·.fileName)

/-- What the system says. -/
def faultOf : IO.Error → FileFault
  | .noFileOrDirectory .. => .notFound
  | .permissionDenied .. => .permissionDenied
  | .resourceExhausted .. => .noSpace
  | .resourceVanished .. => .brokenPipe
  | .invalidArgument _ _ "too many symbolic links encountered" => .tooManyLinks
  | fault => .other (toString fault)

/-- Why a path leads nowhere. -/
def faultAt (path : String) : IO FileFault := do
  let here ← IO.currentDir
  try
    let _ ← (here / path).metadata
    return .notFound
  catch fault => return faultOf fault

/-- What a file holds; devices are left alone. -/
def contentOf (path : String) : IO Content := do
  let here ← IO.currentDir
  try
    unless (← (here / path).metadata).type == .file do return .sealed (.other "not a regular file")
    match String.fromUTF8? (← IO.FS.readBinFile path) with
    | some text => return .text text
    | none => return .sealed .notText
  catch fault => return .sealed (faultOf fault)

/-- The name of a directory without links. -/
def realName (path : String) : IO String := do
  let here ← IO.currentDir
  return (← IO.FS.realPath (here / path)).toString

/-- Add what a path leads to, and what a walk below it comes to if that is asked for.  The
    directories that the walk is in are given by their real names. -/
partial def gather (deep : Bool) (around : List (String × Location)) (path : String)
    (t : FileTree) : IO FileTree := do
  let location := locate (Location.steps path)
  let stopped (t : FileTree) (obstacle : Obstacle) : FileTree :=
    { t with obstacles := t.obstacles ++ [(location, obstacle)] }
  if ← isDirectory path then
    let mut t := { t with directories := t.directories ++ [location] }
    unless deep do return t
    let name ← realName path
    if let some above := around.lookup name then return stopped t (.circle above)
    try
      for entry in ← namesIn path do
        let below := Corpus.joined path [entry]
        if Location.extension? entry = some "json" || (← isDirectory below) ||
            !(← isThere below) then
          t ← gather deep ((name, location) :: around) below t
    catch fault => t := stopped t (.refused (faultOf fault))
    return t
  else if ← isThere path then return t.put location (← contentOf path)
  else if around.isEmpty then return t
  else return stopped t (.refused (← faultAt path))

/-- Add what is on the way to a path. -/
def gatherAbove (path : String) (t : FileTree) : IO FileTree := do
  let steps := Location.steps path
  let mut t := t
  for count in [1:steps.length] do
    let front := steps.take count
    t ← gather false [] (if front = [""] then "/" else String.intercalate "/" front) t
  return t

def environment : IO (List (String × String)) := do
  let bytes ← IO.FS.readBinFile "/proc/self/environ"
  let lines := ((String.fromUTF8? bytes).getD "").splitOn "\x00"
  return lines.filterMap fun line =>
    match line.splitOn "=" with
    | name :: first :: rest => some (name, String.intercalate "=" (first :: rest))
    | _ => none

/-- The directory for the configuration of the user. -/
def findConfigHome : IO (Option String) := do
  match ← IO.getEnv "XDG_CONFIG_HOME" with
  | some path =>
    if path.startsWith "/" then return some path
  | none => pure ()
  return (← IO.getEnv "HOME").map (· ++ "/.config")

/-- The moment at which the process looks at itself. -/
def currentTime : IO Timestamp := do
  let here ← IO.currentDir
  let seen ← (here / "/proc/self/stat").metadata
  let seconds := seen.modified.sec
  return ⟨seconds / 86400, (seconds % 86400).toNat, seen.modified.nsec.toNat⟩

/-- What the system has against something that is done. -/
def faultIn (act : IO Unit) : IO (Option FileFault) := do
  try
    act
    return none
  catch fault => return some (faultOf fault)

def writeTo (path content : String) : IO Unit := do
  let file ← IO.FS.Handle.mk path .write
  file.putStr content
  file.flush

def handTo (stream : IO.FS.Stream) (text : String) : IO Unit := do
  stream.putStr text
  stream.flush

/-- How a run ends whose files are written.  What cannot be written is known only when this is
    tried. -/
def writeOut (around : Surroundings) (now : Timestamp) (i : Invocation) : IO Ending := do
  let ending := Ending.of (carryOut around now i)
  for (path, content) in ending.written do
    if let some fault ← faultIn (writeTo path content) then
      let locked := (locate (Location.steps path), fault) :: around.files.locked
      return .of (carryOut { around with files := { around.files with locked } } now i)
  return ending

/-- Run an invocation in the surroundings of the process. -/
def runHere (i : Invocation) : IO UInt32 := do
  let configHome ← findConfigHome
  let mut files := FileTree.empty
  for path in i.paths configHome do
    files ← gather false [] path (← gatherAbove path files)
  for path in i.corpora do
    files ← gather true [] path (← gatherAbove path files)
  let around : Surroundings := { files, environment := ← environment, configHome }
  let ending ← writeOut around (← currentTime) i
  let outputFault ← faultIn (handTo (← IO.getStdout) ending.stdout)
  let printed := ending.print { around with outputFault }
  let messageFault ← faultIn (handTo (← IO.getStderr) printed.stderr)
  return (printed.tell { around with messageFault }).exitCode.toUInt32

def usageText : String :=
  "Usage: proto-compat [OPTIONS] <COMMAND>\n\n" ++
  "Commands:\n" ++
  "  check   Compare a base snapshot against a candidate\n" ++
  "  rules   List the available rules\n" ++
  "  config  Show or write configuration\n"

def start (words : List String) : IO UInt32 := do
  match parse words with
  | .ok i =>
    try runHere i
    catch fault =>
      IO.eprintln s!"❌ Error: {fault}"
      return 2
  | .error refusal =>
    match refusal with
    | .version => IO.print versionLine
    | .help => IO.print usageText
    | .usage => IO.eprint usageText
    return refusal.exitCode.toUInt32

end SchemaEvolution.CommandLine

def main (words : List String) : IO UInt32 := SchemaEvolution.CommandLine.start words
