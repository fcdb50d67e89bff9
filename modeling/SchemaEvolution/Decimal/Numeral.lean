import SchemaEvolution.Text.Digits

/-! # Decimal numerals

A numeral is a sign, whole digits, a fraction and a power of ten, any of which may be missing.
`Numeral.split?` takes one apart; what a format allows is decided on the parts.
-/

namespace SchemaEvolution

/-- A finite decimal: `digits` times ten to the power of `exponent`, with a sign. -/
structure Decimal where
  negative : Bool
  digits : Nat
  exponent : Int
deriving Repr, DecidableEq

/-- The parts of a numeral as written. -/
structure Numeral where
  /-- `+` or `-`, where one is written. -/
  sign : Option Char
  /-- The digits in front of the point. -/
  whole : List Char
  /-- The digits after the point, where a point is written. -/
  fraction : Option (List Char)
  /-- What follows the letter `e`, where one is written. -/
  power : Option Int
deriving Repr, DecidableEq

namespace Numeral

/-- Take a numeral apart.  Fails where something else than digits, a point or a power is found. -/
def split? (cs : List Char) : Option Numeral :=
  let (sign, cs) := match cs with
    | '+' :: rest => (some '+', rest)
    | '-' :: rest => (some '-', rest)
    | _ => (none, cs)
  let whole := cs.takeWhile Char.isDigit
  let (fraction, rest) := match cs.dropWhile Char.isDigit with
    | '.' :: rest => (some (rest.takeWhile Char.isDigit), rest.dropWhile Char.isDigit)
    | rest => (none, rest)
  match rest with
  | [] => some ⟨sign, whole, fraction, none⟩
  | 'e' :: power | 'E' :: power =>
    (Digits.integer? power).map fun n => ⟨sign, whole, fraction, some n⟩
  | _ => none

/-- The number that the parts stand for. -/
def value (n : Numeral) : Decimal :=
  let fraction := n.fraction.getD []
  { negative := n.sign == some '-'
    digits := Nat.ofDigitChars 10 (n.whole ++ fraction) 0
    exponent := n.power.getD 0 - fraction.length }

/-- Whether the digits in front of the point are there and carry no leading zero. -/
def plainWhole (n : Numeral) : Bool :=
  match n.whole with
  | [] => false
  | ['0'] => true
  | c :: _ => c != '0'

end Numeral

end SchemaEvolution
