import SchemaEvolution.Check.Run
import SchemaEvolution.CommandLine.Invocation
import SchemaEvolution.Config.Codec
import SchemaEvolution.Config.Source
import SchemaEvolution.Files.Corpus

/-! # Running an invocation

A run reads its surroundings and ends with an exit code: 0 if the snapshots are compatible or the
command was carried out, 1 if there are breaking changes, 2 if the input or an output file failed,
3 if the configuration is wrong, and 4 if not every type was checked.  The configuration is settled
before any snapshot is read, and nothing is reported unless both snapshots are valid.

A run only learns that a standard stream is out of order when it hands out its texts.  Then it
breaks off with a code of its own.
-/

namespace SchemaEvolution.CommandLine

/-- Why a run stops. -/
inductive Stop
  | failed (failure : Failure)
  | loading (role path : String) (failure : Failure)
  | writing (path : String) (fault : FileFault)
  | alreadyThere (path : String)
deriving Repr, DecidableEq

def versionLine : String := "proto-compat 0.1.0\n"

/-- What a run leaves behind. -/
structure Ending where
  exitCode : Nat
  stdout : String
  stderr : String
  /-- The files that were written, by path. -/
  written : List (String × String)
deriving Repr, DecidableEq

namespace Stop

def text : Stop → String
  | failed failure => failure.chain
  | loading role path failure => s!"loading {role} {path}: {failure.chain}"
  | writing path fault => s!"writing {path}: {fault.message}"
  | alreadyThere path => s!"{path} already exists (use --force to overwrite)"

def exitCode : Stop → Nat
  | failed failure | loading _ _ failure => if failure.isConfiguration then 3 else 2
  | writing _ _ | alreadyThere _ => 2

def ending (s : Stop) : Ending := ⟨s.exitCode, "", s!"❌ Error: {s.text}\n", []⟩

end Stop

def exitCodeOf : Verdict → Nat
  | .pass => 0
  | .fail => 1
  | .unknown => 4

def closingLine (r : Report) : String :=
  match r.verdict with
  | .pass => s!"✅ Compatible ({r.advisoryCount} advisory)\n"
  | .fail => s!"❌ {r.breakingCount} breaking change(s) detected\n"
  | .unknown => "⚠️  Run cancelled - verdict unknown\n"

/-- The rules and the grading of a check. -/
def checkRegistry (around : Surroundings) (configFile : Option String) (o : CheckOptions) :
    Except Failure Registry := do
  Registry.ofSettings (o.apply (← Settings.load around configFile))

/-- Load one of the snapshots of a check. -/
def loadSnapshot (around : Surroundings) (role path : String) : Except Stop Snapshot :=
  (Corpus.load around.files path).mapError (Stop.loading role path)

def deliver (around : Surroundings) (o : CheckOptions) (r : Report) : Except Stop Ending :=
  let rendered := r.render o.format
  match o.output with
  | none => .ok ⟨exitCodeOf r.verdict, rendered, closingLine r, []⟩
  | some path =>
    match around.files.write path rendered with
    | .error fault => .error (.writing path fault)
    | .ok _ =>
      .ok ⟨exitCodeOf r.verdict, "", s!"📝 Report written to {path}\n" ++ closingLine r,
        [(path, rendered)]⟩

/-- What a check settles before it compares anything: its rules, then its snapshots. -/
def prepare (around : Surroundings) (configFile : Option String) (o : CheckOptions) :
    Except Stop (Registry × Snapshot × Snapshot) := do
  let registry ← (checkRegistry around configFile o).mapError .failed
  let base ← loadSnapshot around "base" o.base
  let candidate ← loadSnapshot around "candidate" o.candidate
  return (registry, base, candidate)

def check (around : Surroundings) (now : Timestamp) (configFile : Option String)
    (o : CheckOptions) : Except Stop Ending := do
  let (registry, base, candidate) ← prepare around configFile o
  deliver around o (registry.check base candidate now)

/-- A text with blanks behind it, up to a width. -/
def column (width : Nat) (text : String) : String :=
  text ++ String.ofList (List.replicate (width - text.length) ' ')

def ruleLine (id : RuleId) : String :=
  s!"   {column 26 id.text} {column 9 id.severity.text} {id.summary}\n"

def ruleList : String :=
  s!"📋 {RuleId.all.length} rules\n\n" ++ String.join (RuleId.all.map ruleLine)

/-- Write the standard settings to a file. -/
def initConfig (around : Surroundings) (path : String) (force : Bool) : Except Stop Ending := do
  if around.files.has path && !force then throw (.alreadyThere path)
  let text ← (Settings.toToml {}).mapError .failed
  let _ ← (around.files.write path text).mapError fun fault => .failed (.file fault)
  return ⟨0, s!"✅ Wrote {path}\n", "", [(path, text)]⟩

def carryOut (around : Surroundings) (now : Timestamp) (i : Invocation) : Except Stop Ending :=
  match i.command with
  | .check options => check around now i.configFile options
  | .rules => .ok ⟨0, ruleList, "", []⟩
  | .showConfig => do
    let settings ← (Settings.load around i.configFile).mapError .failed
    return ⟨0, ← settings.toToml.mapError .failed, "", []⟩
  | .initConfig path force => initConfig around path force

/-- The code of a run that breaks off because a stream does not take a text. -/
def brokenOff : Nat := 101

/-- The code of a command line that is no invocation. -/
def Refusal.exitCode : Refusal → Nat
  | .usage => 2
  | .help | .version => 0

namespace Ending

/-- What is left behind in either case. -/
def of : Except Stop Ending → Ending
  | .ok ending => ending
  | .error stop => stop.ending

/-- A run whose text the standard output does not take.  The files are written by then, and nothing
    else is said but why the run breaks off. -/
def unprinted (e : Ending) (fault : FileFault) : Ending :=
  { e with
    exitCode := brokenOff
    stdout := ""
    stderr := s!"failed printing to stdout: {fault.message}\n" }

/-- A run whose messages the standard error does not take. -/
def unheard (e : Ending) : Ending := { e with exitCode := brokenOff, stderr := "" }

/-- Hand out the text of a run. -/
def print (around : Surroundings) (e : Ending) : Ending :=
  match around.outputFault with
  | some fault => if e.stdout = "" then e else e.unprinted fault
  | none => e

/-- Hand out the messages of a run. -/
def tell (around : Surroundings) (e : Ending) : Ending :=
  if around.messageFault.isNone || e.stderr = "" then e else e.unheard

/-- What is left behind of a run when its texts are handed out, the report before the messages. -/
def handedOut (around : Surroundings) (e : Ending) : Ending := (e.print around).tell around

end Ending

def run (around : Surroundings) (now : Timestamp) (i : Invocation) : Ending :=
  (Ending.of (carryOut around now i)).handedOut around

end SchemaEvolution.CommandLine
