import SchemaEvolution.Schema.Definition
import SchemaEvolution.Version.Reader

/-! # Failures

Everything that can stop a run before it has a report, as causes.  The wording of a cause is in
`Defect.message` and `Failure.message`.  Failures of the configuration are told apart from the
others by `Failure.isConfiguration`.
-/

namespace SchemaEvolution

/-- Why the system does not read or write something. -/
inductive FileFault
  | notFound
  | permissionDenied
  | notADirectory
  | isADirectory
  | noSpace
  | brokenPipe
  | nameTooLong
  | tooManyLinks
  /-- What is read is no text. -/
  | notText
  /-- Whatever else the system says. -/
  | other (message : String)
deriving Repr, DecidableEq

/-- What is wrong with a schema. -/
inductive Defect
  | typeName (name : String)
  | tagRange (owner : String) (range : ReservedRange)
  | valueRange (owner : String) (range : ReservedRange)
  | fieldName (path : String)
  | valueName (path : String)
  | fieldNameTwice (owner name : String)
  | valueNameTwice (owner name : String)
  | valueNumberTwice (owner : String) (number : Int)
  | tagOutside (path : String) (tag : Nat)
  | tagOfImplementation (path : String) (tag : Nat)
  | tagReserved (path : String) (tag : Nat)
  | nameReserved (path : String)
  | valueReserved (path : String)
  | requiredForbidden (path : String) (dialect : Dialect)
  | defaultForbidden (path : String) (dialect : Dialect)
  | defaultOnRepeated (path : String)
  | packedForbidden (path : String)
  | wrongKind (path : String) (expected : TypeKind) (target : String) (found : TypeKind)
  | noSuchPath
  | impassable (entry : String) (fault : FileFault)
  | circular (entry above : String)
  | noDescriptors
  | unreadable (file : String)
  | versionConflict (file : String) (declared : Version) (origin : String) (existing : Version)
deriving Repr, DecidableEq

/-- Why there is no report. -/
inductive Failure
  | invalidSnapshot (label : String) (defect : Defect)
  | unresolvedReference (label path target : String)
  | duplicateType (label name : String)
  | duplicateTag (label owner : String) (tag : Nat)
  | unknownOption (key : String)
  | invalidOption (option problem : String)
  | unknownRule (id : String)
  | malformedConfig
  | file (fault : FileFault)
  | malformedJson
  | version (fault : VersionFault)
deriving Repr, DecidableEq

/-- Largest tag number. -/
def maxTag : Nat := 536870911

namespace FileFault

def message : FileFault → String
  | notFound => "No such file or directory (os error 2)"
  | permissionDenied => "Permission denied (os error 13)"
  | notADirectory => "Not a directory (os error 20)"
  | isADirectory => "Is a directory (os error 21)"
  | noSpace => "No space left on device (os error 28)"
  | brokenPipe => "Broken pipe (os error 32)"
  | nameTooLong => "File name too long (os error 36)"
  | tooManyLinks => "Too many levels of symbolic links (os error 40)"
  | notText => "stream did not contain valid UTF-8"
  | other message => message

end FileFault

namespace Defect

def message : Defect → String
  | typeName name => s!"'{name}' is not a valid qualified type name"
  | tagRange owner range => s!"{owner} reserves invalid tag range {range.text}"
  | valueRange owner range => s!"{owner} reserves invalid value range {range.text}"
  | fieldName path => s!"'{path}' is not a valid field name"
  | valueName path => s!"'{path}' is not a valid enum value name"
  | fieldNameTwice owner name => s!"{owner} declares field name '{name}' twice"
  | valueNameTwice owner name => s!"{owner} declares value name '{name}' twice"
  | valueNumberTwice owner number => s!"{owner} binds number {number} more than once"
  | tagOutside path tag => s!"{path} uses tag {tag} outside 1..={maxTag}"
  | tagOfImplementation path tag =>
    s!"{path} uses tag {tag} from the implementation-reserved range"
  | tagReserved path tag => s!"{path} uses tag {tag} which its message reserves"
  | nameReserved path => s!"{path} uses a name its message reserves"
  | valueReserved path => s!"{path} uses a number or name its enum reserves"
  | requiredForbidden path dialect => s!"{path} is required, which {dialect.text} does not allow"
  | defaultForbidden path dialect =>
    s!"{path} has an explicit default, which {dialect.text} does not allow"
  | defaultOnRepeated path => s!"{path} is repeated and cannot carry a default"
  | packedForbidden path => s!"{path} is packed but is not a repeated scalar numeric field"
  | wrongKind path expected target found =>
    s!"{path} expects {expected.text} {target} but found {found.text}"
  | noSuchPath => "path does not exist"
  | impassable entry fault =>
    s!"walking descriptors: IO error for operation on {entry}: {fault.message}"
  | circular entry above =>
    s!"walking descriptors: File system loop found: {entry} points to an ancestor {above}"
  | noDescriptors => "no descriptor files found"
  | unreadable file => s!"{file}: JSON error: malformed descriptor"
  | versionConflict file declared origin existing =>
    s!"{file} declares version {declared.display} but {origin} declares {existing.display}"

end Defect

namespace Failure

def message : Failure → String
  | invalidSnapshot label defect => s!"Invalid snapshot {label}: {defect.message}"
  | unresolvedReference label path target =>
    s!"Unresolved type reference in snapshot {label}: {path} refers to unknown type {target}"
  | duplicateType label name => s!"Duplicate type in snapshot {label}: {name}"
  | duplicateTag label owner tag =>
    s!"Duplicate tag in snapshot {label}: {owner} declares tag {tag} more than once"
  | unknownOption key => s!"Unknown configuration option: {key}"
  | invalidOption option problem => s!"Invalid value for configuration option {option}: {problem}"
  | unknownRule id => s!"Unknown rule id: {id}"
  | malformedConfig => "Configuration error: malformed configuration"
  | file fault => s!"IO error: {fault.message}"
  | malformedJson => "JSON error: malformed value"
  | version fault => s!"Semver error: {fault.message}"

/-- The failure underneath, where a failure passes one on. -/
def cause? : Failure → Option String
  | malformedConfig => some "malformed configuration"
  | file fault => some fault.message
  | malformedJson => some "malformed value"
  | version fault => some fault.message
  | _ => none

/-- The failure and what is underneath, on one line. -/
def chain (f : Failure) : String :=
  match f.cause? with
  | none => f.message
  | some cause => s!"{f.message}: {cause}"

def isConfiguration : Failure → Bool
  | unknownOption _ | invalidOption _ _ | unknownRule _ | malformedConfig => true
  | _ => false

end Failure

end SchemaEvolution
