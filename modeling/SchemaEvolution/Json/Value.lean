import SchemaEvolution.Decimal.Stepwise

/-! # JSON values

A JSON value keeps its members in the order in which they were written, repeated keys included.
A number is either an integer of 64 bits, signed or unsigned, or a binary value.  `1.0`, `1e0` and
`-0` are binary values, so that a reader of integers can tell them from `1` and `0`.
-/

namespace SchemaEvolution

/-- A JSON number. -/
inductive JsonNumber
  | integer (value : Int)
  | binary (value : Binary64)
deriving Repr, DecidableEq

/-- A JSON value. -/
inductive Json
  | null
  | bool (value : Bool)
  | number (value : JsonNumber)
  | string (value : String)
  | array (items : List Json)
  | object (members : List (String × Json))
deriving Repr

namespace JsonNumber

/-- The number that a numeral stands for: an integer where no point and no power is written and
    the value fits, a binary value elsewhere. -/
def ofNumeral (n : Numeral) : JsonNumber :=
  let value : Int := Nat.ofDigitChars 10 n.whole 0
  if n.fraction.isSome || n.power.isSome then .binary (.ofNumeral n)
  else if n.sign.isSome then
    if value = 0 || value > -Digits.int64Min then .binary (.ofNumeral n) else .integer (-value)
  else if value ≤ Digits.word64Max then .integer value
  else .binary (.ofNumeral n)

/-- Read a JSON numeral: no plus sign, no leading zero, digits on both sides of a point, and a
    value within the range of binary floating point. -/
def read? (cs : List Char) : Option JsonNumber :=
  (Numeral.split? cs).bind fun n =>
    if n.sign = some '+' || !n.plainWhole || n.fraction = some [] then none
    else match ofNumeral n with
      | .integer value => some (.integer value)
      | .binary (.finite negative mantissa exponent) =>
        some (.binary (.finite negative mantissa exponent))
      | .binary _ => none

end JsonNumber

namespace Json

def int (n : Int) : Json := .number (.integer n)

/-- A natural number as a JSON value. -/
def nat (n : Nat) : Json := .int n

/-- A list of texts as a JSON value. -/
def strings (texts : List String) : Json := .array (texts.map .string)

/-- The value of the first member with the given key. -/
def member? (key : String) : Json → Option Json
  | .object members => members.lookup key
  | _ => none

end Json

end SchemaEvolution
