import SchemaEvolution.Rule.Observation
import SchemaEvolution.Text.Identifier
import SchemaEvolution.Text.Likeness

/-! # Things that are gone

Members that leave their number or name free for others, reservations that are given up, and
types that no longer exist.  A type that is gone may have been renamed: the most alike new type of
its kind is suggested.
-/

namespace SchemaEvolution.Rule

/-- A member that is removed and leaves its number free. -/
def unreservedRemoval : ChangeEvent → Option Observation
  | .removed entity after =>
    match entity.number? with
    | none => none
    | some number =>
      if after.number then none
      else
        let loss := s!"{entity.sort} '{entity.name}' removed without reserving {number}"
        some ((Observation.violation s!"{loss}; a later change may reuse it").was s!"{number}")
  | _ => none

/-- A member that is removed with its number reserved and its name free. -/
def nameNotReserved : ChangeEvent → Option Observation
  | .removed entity after =>
    if !entity.isType && after.number && !after.name then
      let loss := s!"{entity.sort} '{entity.name}' has its number reserved but not its name"
      some (.violation s!"{loss}; text formats may still bind it")
    else none
  | _ => none

/-- What the new reservations no longer cover: ranges, then names. -/
def dropped (now : Reservations) (changes : List Change) : List String :=
  let ranges := changes.flatMap fun change =>
    match change with
    | .reservedNumbers _ removed => removed.filter fun range => !now.coversRange range
    | _ => []
  let names := changes.flatMap fun change =>
    match change with
    | .reservedNames _ removed => removed
    | _ => []
  ranges.map ReservedRange.text ++ names.map fun name => s!"\"{name}\""

/-- Reservations of a type that are given up. -/
def reservationDropped : ChangeEvent → Option Observation
  | .modified (.messages _ new) changes => report new.name (dropped new.reserved changes)
  | .modified (.enums _ new) changes => report new.name (dropped new.reserved changes)
  | _ => none
where
  /-- The observation about reservations that are gone, if there are any. -/
  report (name : String) (gone : List String) : Option Observation :=
    let listed := String.intercalate ", " gone
    if gone.isEmpty then none
    else some ((Observation.violation s!"reservations dropped from {name}: {listed}").was listed)

/-- The better of two suggestions; the first one of two that are equally good. -/
def better (best : Option (Int × String)) (other : Int × String) : Option (Int × String) :=
  match best with
  | none => some other
  | some (top, _) => if top < other.1 then some other else best

/-- The new type of a kind whose simple name is most like that of a type that is gone. -/
def renameSuggestion (ctx : RuleContext) (name : String) (kind : TypeKind) : Option String :=
  let wanted := Identifier.simpleName name
  let likely := ctx.candidate.types.filterMap fun t =>
    if t.kind ≠ kind || ctx.base.has t.name then none
    else (Likeness.ofNames? (Identifier.simpleName t.name) wanted).map (·, t.name)
  (likely.foldl better none).map Prod.snd

/-- What is said about a type that is gone. -/
def removedType (ctx : RuleContext) (name : String) (kind : TypeKind) : Observation :=
  match ctx.candidate.get? name with
  | some now =>
    (Observation.violation s!"{kind.text} {name} became {now.kind.text} {name}").was name
  | none =>
    match renameSuggestion ctx name kind with
    | some other =>
      ((Observation.violation s!"{kind.text} {name} was removed (renamed to {other}?)").now
        other).was name
    | none =>
      let loss := s!"{kind.text} {name} was removed"
      (Observation.violation s!"{loss}; peers still using it will fail to resolve").was name

def typeRemoved (ctx : RuleContext) : ChangeEvent → Option Observation
  | .removed (.message m) _ => some (removedType ctx m.name .message)
  | .removed (.enum e) _ => some (removedType ctx e.name .enum)
  | _ => none

end SchemaEvolution.Rule
