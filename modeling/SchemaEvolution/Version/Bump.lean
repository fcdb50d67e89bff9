import SchemaEvolution.Version.Basic

/-! # Version steps

How far a version is from an earlier one, and how far it has to be for a given change.  Steps are
ordered by size.  While the major number is zero, a minor step may break.
-/

namespace SchemaEvolution

/-- The size of a step. -/
inductive Bump
  | none
  | patch
  | minor
  | major
deriving Repr, DecidableEq

namespace Bump

/-- The place of a step in the order of sizes. -/
def rank : Bump → Nat
  | none => 0
  | patch => 1
  | minor => 2
  | major => 3

/-- Whether a step is at least as large as another one. -/
def atLeast (a b : Bump) : Bool := b.rank ≤ a.rank

def max (a b : Bump) : Bump := if b.atLeast a then b else a

def text : Bump → String
  | none => "none"
  | patch => "patch"
  | minor => "minor"
  | major => "major"

def required (breaking additions changes : Bool) : Bump :=
  if breaking then major else if additions then minor else if changes then patch else none

/-- Whether a step from a version is enough where another one is required. -/
def satisfies (declared required : Bump) (previous : Version) : Bool :=
  if previous.major = 0 && required = major then declared.atLeast minor
  else declared.atLeast required

end Bump

namespace Version

def bumpFrom (new old : Version) : Bump :=
  if new.notAfter old then .none
  else if old.major < new.major then .major
  else if old.minor < new.minor then .minor
  else .patch

/-- The next version that is a step away. -/
def bumped (v : Version) : Bump → Version
  | .none => v
  | .patch => release v.major v.minor (v.patch + 1)
  | .minor => release v.major (v.minor + 1) 0
  | .major => release (v.major + 1) 0 0

end Version

/-- The declared step between two versions beside the step that the changes require. -/
structure VersionCheck where
  base : Version
  candidate : Version
  declared : Bump
  required : Bump
  satisfied : Bool
deriving Repr, DecidableEq

namespace VersionCheck

/-- Compare the step from `base` to `candidate` with the required one. -/
def of (base candidate : Version) (required : Bump) : VersionCheck :=
  let declared := candidate.bumpFrom base
  ⟨base, candidate, declared, required, declared.satisfies required base⟩

end VersionCheck

end SchemaEvolution
