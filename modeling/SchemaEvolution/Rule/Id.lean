import SchemaEvolution.Failure
import SchemaEvolution.Text.Blank

/-! # Rules by name

Every rule has an id, by which configurations and findings refer to it, and a summary.  A
configuration may write an id in any case and with blanks around it.
-/

namespace SchemaEvolution

/-- The rules, in the order in which they run. -/
inductive RuleId
  | tagReuse
  | typeChange
  | requiredAdded
  | fieldCount
  | enumDefault
  | enumValueReuse
  | defaultValueChanged
  | repeatedToScalar
  | unreservedRemoval
  | nameNotReserved
  | reservedNameReuse
  | reservationDropped
  | typeRemoved
deriving Repr, DecidableEq

namespace RuleId

def all : List RuleId :=
  [tagReuse, typeChange, requiredAdded, fieldCount, enumDefault, enumValueReuse,
   defaultValueChanged, repeatedToScalar, unreservedRemoval, nameNotReserved, reservedNameReuse,
   reservationDropped, typeRemoved]

def text : RuleId → String
  | tagReuse => "R-TAG-REUSE"
  | typeChange => "R-TYPE-CHANGE"
  | requiredAdded => "R-REQUIRED-ADDED"
  | fieldCount => "R-FIELD-COUNT"
  | enumDefault => "R-ENUM-DEFAULT"
  | enumValueReuse => "R-ENUM-VALUE-REUSE"
  | defaultValueChanged => "R-DEFAULT-VALUE-CHANGED"
  | repeatedToScalar => "R-REPEATED-TO-SCALAR"
  | unreservedRemoval => "R-UNRESERVED-REMOVAL"
  | nameNotReserved => "R-NAME-NOT-RESERVED"
  | reservedNameReuse => "R-RESERVED-NAME-REUSE"
  | reservationDropped => "R-RESERVATION-DROPPED"
  | typeRemoved => "R-TYPE-REMOVED"

def summary : RuleId → String
  | tagReuse => "a field tag is bound to an unrelated field"
  | typeChange => "a field's type changed to one that cannot decode the old bytes"
  | requiredAdded => "a required field appeared in an existing message"
  | fieldCount => "a message grew past the configured field count"
  | enumDefault => "an enum has no zero value to fall back on"
  | enumValueReuse => "an enum number now means something else"
  | defaultValueChanged => "the effective default value of a field changed"
  | repeatedToScalar => "a repeated field became singular (or the reverse)"
  | unreservedRemoval => "a field or enum value was removed without reserving its number"
  | nameNotReserved => "a removed member's number was reserved but its name was not"
  | reservedNameReuse => "a reserved name was given to a live member"
  | reservationDropped => "a reserved number or name was removed from a type"
  | typeRemoved => "a message or enum was deleted"

/-- Whether two texts differ at most in the case of ASCII letters. -/
def sameLetters (a b : List Char) : Bool := a.map Char.toLower == b.map Char.toLower

/-- The rule that a text names, if there is one. -/
def find? (text : String) : Option RuleId :=
  all.find? fun id => sameLetters id.text.toList (Blank.trim text.toList)

def read (text : String) : Except Failure RuleId :=
  match find? text with
  | some id => .ok id
  | none => .error (.unknownRule text)

theorem mem_all (id : RuleId) : id ∈ all := by cases id <;> decide

theorem find?_text (id : RuleId) : find? id.text = some id := by
  cases id <;> decide +kernel

end RuleId

end SchemaEvolution
