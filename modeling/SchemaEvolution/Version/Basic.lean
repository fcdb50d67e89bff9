import SchemaEvolution.Text.Digits

/-! # Versions

Semantic versions: three numbers, a pre-release and build metadata.  They are ordered by the three
numbers, then by the pre-release, whose absence is the greatest, then by the build metadata, whose
absence is the least.
-/

namespace SchemaEvolution

/-- A semantic version. -/
structure Version where
  major : Nat
  minor : Nat
  patch : Nat
  /-- The segments of the pre-release; none for a release. -/
  pre : List String
  build : List String
deriving Repr, DecidableEq

namespace Version

def release (major minor patch : Nat) : Version := ⟨major, minor, patch, [], []⟩

/-- Segments behind a mark, or nothing where there is no segment. -/
def textAfter (mark : String) (segments : List String) : String :=
  if segments.isEmpty then "" else mark ++ String.intercalate "." segments

def text (v : Version) : String :=
  s!"{v.major}.{v.minor}.{v.patch}" ++ textAfter "-" v.pre ++ textAfter "+" v.build

/-- The text of a version behind the letter v. -/
def display (v : Version) : String := "v" ++ v.text

/-- Order two segments.  Numbers come before words, numbers are ordered by value and then by
    length, words by their bytes. -/
def compareSegments (a b : String) : Ordering :=
  match Digits.natural? a.toList, Digits.natural? b.toList with
  | some m, some n => (compare m n).then (compare a.length b.length)
  | some _, none => .lt
  | none, some _ => .gt
  | none, none => compare a b

/-- Order two lists of segments: the first difference decides, else the shorter one comes first. -/
def compareLists : List String → List String → Ordering
  | [], [] => .eq
  | [], _ :: _ => .lt
  | _ :: _, [] => .gt
  | a :: as, b :: bs => (compareSegments a b).then (compareLists as bs)

/-- Order two pre-releases.  A release comes after all of its pre-releases. -/
def comparePre : List String → List String → Ordering
  | [], [] => .eq
  | [], _ :: _ => .gt
  | _ :: _, [] => .lt
  | as, bs => compareLists as bs

def compare (u v : Version) : Ordering :=
  (Ord.compare u.major v.major).then <|
  (Ord.compare u.minor v.minor).then <|
  (Ord.compare u.patch v.patch).then <|
  (comparePre u.pre v.pre).then (compareLists u.build v.build)

/-- Whether a version is not after another one. -/
def notAfter (u v : Version) : Bool := u.compare v != .gt

end Version

end SchemaEvolution
