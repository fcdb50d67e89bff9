import SchemaEvolution.Rule.Observation
import SchemaEvolution.Decimal.Binary64

/-! # Defaults

The values that readers assume: for a field that is not set, and for an enum whose value they do
not know.
-/

namespace SchemaEvolution

namespace FieldType

/-- The text of the value that a reader assumes for an unset field without an explicit default:
    zero, false, nothing, or the first value of an enum. -/
def zeroText? (s : Snapshot) : FieldType → Option String
  | scalar .bool => some "false"
  | scalar .string | scalar .bytes => some ""
  | scalar _ => some "0"
  | enum name => (s.enum? name).bind fun e => e.values.head?.map EnumValue.name
  | message _ | group _ => none

/-- Whether two texts are one value of a type: numbers are compared by value where both texts
    are numbers, everything else by text. -/
def sameValue (type : FieldType) (a b : String) : Bool :=
  match type with
  | scalar .float | scalar .double =>
    match Binary64.read? a.toList, Binary64.read? b.toList with
    | some x, some y => x.same y
    | _, _ => a == b
  | scalar .bool | scalar .string | scalar .bytes | enum _ | message _ | group _ => a == b
  | scalar _ =>
    let read? (text : String) := Digits.integerWithin? Digits.int128Min Digits.int128Max text.toList
    match read? a, read? b with
    | some x, some y => x == y
    | _, _ => a == b

end FieldType

namespace Field

/-- The value that a reader assumes for the field where it is not set. -/
def assumedValue? (s : Snapshot) (f : Field) : Option String :=
  match f.default with
  | some text => some text
  | none => f.type.zeroText? s

/-- Whether two fields of one type are read alike where they are not set. -/
def sameAssumedValue (base candidate : Snapshot) (old new : Field) : Bool :=
  match old.assumedValue? base, new.assumedValue? candidate with
  | some a, some b => new.type.sameValue a b
  | _, _ => false

end Field

namespace Rule

/-- An explicit default as messages show it. -/
def showDefault (default : Option String) : String := default.getD "<implicit>"

/-- A field whose explicit default changed so that readers disagree on unset values. -/
def defaultValueChanged (ctx : RuleContext) : ChangeEvent → Option Observation
  | .modified (.fields _ _ old new) _ =>
    if old.default = new.default || old.rebinds new then none
    else if old.type = new.type && old.sameAssumedValue ctx.base ctx.candidate new then none
    else
      some ((Observation.violation
        s!"default of '{new.name}' changed; readers disagree on unset values").between
        (showDefault old.default) (showDefault new.default))
  | _ => none

/-- An enum without the value zero.  Where the value was removed and left unreserved, the removal
    is reported on the value instead. -/
def enumDefault : ChangeEvent → Option Observation
  | .added (.enum e) _ =>
    if e.hasZero then none else some (.violation s!"new enum {e.name} has no value numbered 0")
  | .modified (.enums old new) _ =>
    if old.hasZero && !new.hasZero && new.reserved.coversNumber 0 then
      some (.violation s!"enum {new.name} no longer has a value numbered 0")
    else none
  | _ => none

end Rule

end SchemaEvolution
