import SchemaEvolution.Text.Digits
import SchemaEvolution.Toml.Text

/-! # Keys that are paths

A key of a layer is a path if it is written as one: names with dots between them, each with any
number of subscripts behind it, as in `tables.rows[2].name`.  A subscript counts from the front,
or from the back if it is negative.  A key that is written in another way is one name.
-/

namespace SchemaEvolution

/-- A step of a path: to a key of a table, or to an item of a list. -/
inductive KeyStep
  | name (text : String)
  | item (index : Int)
deriving Repr, DecidableEq

namespace KeyPath

/-- A character of the names in a path. -/
def isNameChar (c : Char) : Bool := c.isAlphanum || c = ' ' || c = '_' || c = '-'

/-- The integer of a subscript, behind its opening bracket. -/
def index? (cs : List Char) : Option Int :=
  match cs.reverse with
  | ']' :: back =>
    match (back.dropWhile Toml.isBlank).reverse.dropWhile Toml.isBlank with
    | '+' :: _ => none
    | body => Digits.integerWithin? Digits.int64Min Digits.int64Max body
  | _ => none

/-- The steps of a name with its subscripts. -/
def part? (cs : List Char) : Option (List KeyStep) :=
  match cs.splitOn '[' with
  | [] => none
  | name :: subscripts =>
    if name.isEmpty || !name.all isNameChar then none
    else (subscripts.mapM index?).map fun indices =>
      .name (String.ofList name) :: indices.map .item

def ofKey (k : String) : List KeyStep :=
  (((k.toList.splitOn '.').mapM part?).map List.flatten).getD [.name k]

example : part? "a[0][ -1 ]".toList = some [.name "a", .item 0, .item (-1)] ∧
    part? "a[+0]".toList = none ∧ part? "[0]".toList = none ∧ part? "a[0]b".toList = none := by
  decide +kernel

end KeyPath

end SchemaEvolution
