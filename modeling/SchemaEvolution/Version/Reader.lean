import SchemaEvolution.Version.Basic
import SchemaEvolution.Text.Quoted

/-! # Reading versions

The text of a version is `MAJOR.MINOR.PATCH`, then a pre-release behind `-` and build metadata
behind `+`, either of which may be missing.  What is wrong with a text is a `VersionFault`: the
first fault from the left, at the part that was being read.
-/

namespace SchemaEvolution

/-- A part of a version. -/
inductive VersionPart
  | major
  | minor
  | patch
  | pre
  | build
deriving Repr, DecidableEq

/-- What is wrong with the text of a version. -/
inductive VersionFault
  | empty
  /-- The text ends inside of a part, or where a dot has to follow it. -/
  | endsIn (part : VersionPart)
  /-- A part starts with something else than a digit. -/
  | startsWith (c : Char) (part : VersionPart)
  /-- Something else than the next part follows. -/
  | followedBy (c : Char) (part : VersionPart)
  | leadingZero (part : VersionPart)
  | tooLarge (part : VersionPart)
  | emptySegment (part : VersionPart)
deriving Repr, DecidableEq

namespace VersionPart

/-- The name of a part in messages. -/
def text : VersionPart → String
  | major => "major version number"
  | minor => "minor version number"
  | patch => "patch version number"
  | pre => "pre-release identifier"
  | build => "build metadata"

end VersionPart

namespace VersionFault

def message : VersionFault → String
  | empty => "empty string, expected a semver version"
  | endsIn part => s!"unexpected end of input while parsing {part.text}"
  | startsWith c part => s!"unexpected character {Quoted.quote c} while parsing {part.text}"
  | followedBy c part => s!"unexpected character {Quoted.quote c} after {part.text}"
  | leadingZero part => s!"invalid leading zero in {part.text}"
  | tooLarge part => s!"value of {part.text} exceeds u64::MAX"
  | emptySegment part => s!"empty identifier segment in {part.text}"

end VersionFault

namespace Version

/-- Read the digits of a number, and return what follows. -/
def readNumber (part : VersionPart) (cs : List Char) : Except VersionFault (Nat × List Char) :=
  match cs.takeWhile Char.isDigit, cs.dropWhile Char.isDigit with
  | [], [] => .error (.endsIn part)
  | [], c :: _ => .error (.startsWith c part)
  | '0' :: _ :: _, _ => .error (.leadingZero part)
  | digits, rest =>
    let value := Nat.ofDigitChars 10 digits 0
    if Digits.word64Max < value then .error (.tooLarge part) else .ok (value, rest)

def readDot (part : VersionPart) : List Char → Except VersionFault (List Char)
  | '.' :: rest => .ok rest
  | c :: _ => .error (.followedBy c part)
  | [] => .error (.endsIn part)

def isSegment (c : Char) : Bool := c.isAlphanum || c == '-'

/-- Whether a segment is a number that is written with a leading zero. -/
def padded : List Char → Bool
  | '0' :: c :: cs => (c :: cs).all Char.isDigit
  | _ => false

/-- Read segments that are joined by dots, and return what follows. -/
def readSegments (part : VersionPart) (cs : List Char) :
    Except VersionFault (List String × List Char) :=
  let segment := cs.takeWhile isSegment
  if segment.isEmpty then .error (.emptySegment part)
  else if part = .pre && padded segment then .error (.leadingZero part)
  else match found : cs.dropWhile isSegment with
    | '.' :: rest =>
      have _ : rest.length < cs.length := by
        have := (List.dropWhile_suffix isSegment (l := cs)).length_le
        rw [found, List.length_cons] at this
        omega
      match readSegments part rest with
      | .error fault => .error fault
      | .ok (segments, after) => .ok (String.ofList segment :: segments, after)
    | rest => .ok ([String.ofList segment], rest)
termination_by cs.length

/-- Read the segments behind a mark, if the mark comes next. -/
def readMarked (mark : Char) (part : VersionPart) (cs : List Char) :
    Except VersionFault (List String × List Char) :=
  match cs with
  | c :: rest => if c = mark then readSegments part rest else .ok ([], cs)
  | [] => .ok ([], [])

def readChars (cs : List Char) : Except VersionFault Version := do
  if cs.isEmpty then throw .empty
  let (major, cs) ← readNumber .major cs
  let cs ← readDot .major cs
  let (minor, cs) ← readNumber .minor cs
  let cs ← readDot .minor cs
  let (patch, cs) ← readNumber .patch cs
  let (pre, cs) ← readMarked '-' .pre cs
  let (build, cs) ← readMarked '+' .build cs
  match cs with
  | [] => return ⟨major, minor, patch, pre, build⟩
  | c :: _ =>
    throw (.followedBy c (if !build.isEmpty then .build else if !pre.isEmpty then .pre else .patch))

/-- Read a version without a letter in front. -/
def readBare (text : String) : Except VersionFault Version := readChars text.toList

/-- Read a version, behind one letter v or none. -/
def read (text : String) : Except VersionFault Version :=
  match text.toList with
  | 'v' :: rest => readChars rest
  | cs => readChars cs

end Version

end SchemaEvolution
