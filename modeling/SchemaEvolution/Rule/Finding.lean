import SchemaEvolution.Rule.Severity

/-! # Findings

What a rule has to say about one change.
-/

namespace SchemaEvolution

/-- One remark of one rule. -/
structure Finding where
  rule : RuleId
  severity : Severity
  /-- The path of the entity that changed. -/
  path : String
  /-- The qualified name of the type that the entity belongs to. -/
  typeName : String
  message : String
  oldValue : Option String := none
  newValue : Option String := none
  /-- Whether an advisory finding was raised to a breaking one. -/
  escalated : Bool := false
  /-- The other types that embed the type, directly or not. -/
  affected : List String := []
deriving Repr, DecidableEq

namespace Finding

def isBreaking (f : Finding) : Bool := f.severity == .breaking

/-- The line about old and new values. -/
def valuesLine : Option String → Option String → String
  | some old, some new => s!"\n  - {old} -> {new}"
  | some old, none => s!"\n  - was {old}"
  | none, some new => s!"\n  - now {new}"
  | none, none => ""

def affectedLine (types : List String) : String :=
  if types.isEmpty then "" else "\n  - affects " ++ String.intercalate ", " types

def text (f : Finding) : String :=
  s!"[{f.rule.text}] {f.severity.text}: {f.message} ({f.path})" ++
    valuesLine f.oldValue f.newValue ++ affectedLine f.affected

end Finding

end SchemaEvolution
