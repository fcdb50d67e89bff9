import SchemaEvolution.Rule.Observation

/-! # Numbers and names with a new meaning

Tags and values that were reserved or stood for something else, and names that were reserved.
-/

namespace SchemaEvolution.Rule

/-- A tag that was reserved, or that passes to an unrelated field. -/
def tagReuse : ChangeEvent → Option Observation
  | .added (.field _ f) before =>
    if before.number then
      some ((Observation.violation
        s!"tag {f.number} was reserved and is now used by field '{f.name}'").between
        "reserved" f.describe)
    else none
  | .modified (.fields _ _ old new) _ =>
    if old.rebinds new then
      some ((Observation.violation
        s!"tag {new.number} moved from field '{old.name}' to unrelated field '{new.name}'").between
        old.describe new.describe)
    else none
  | _ => none

/-- A number of an enum that was reserved, or that gets another name. -/
def enumValueReuse : ChangeEvent → Option Observation
  | .added (.value _ v) before =>
    if before.number then
      some ((Observation.violation
        s!"value {v.number} was reserved and is now bound to {v.name}").between "reserved" v.name)
    else none
  | .modified (.values _ _ old new) _ =>
    if old.name = new.name then none
    else
      some ((Observation.violation
        s!"value {new.number} renamed from {old.name} to {new.name}").between old.name new.name)
  | _ => none

/-- Whether some change gives a member a name that was reserved. -/
def takesReservedName (changes : List Change) : Bool :=
  changes.any fun change =>
    match change with
    | .name _ _ previouslyReserved => previouslyReserved
    | _ => false

/-- A reserved name that a member takes. -/
def reservedNameReuse : ChangeEvent → Option Observation
  | .added entity before =>
    if !entity.isType && before.name then
      some (.violation s!"name '{entity.name}' was reserved and is in use again")
    else none
  | .modified revision changes =>
    if !revision.new.isType && takesReservedName changes then
      some (.violation s!"name '{revision.new.name}' was reserved and is in use again")
    else none
  | .removed _ _ => none

end SchemaEvolution.Rule
