/-! # Decimal digits

Whole numbers in decimal text.  `natural?` reads digits alone, `integer?` reads them after an
optional sign, and both take any number of leading zeros.  `write` is the shortest spelling.
-/

namespace SchemaEvolution.Digits

/-- The value of a run of digits, with nothing around it. -/
def natural? (cs : List Char) : Option Nat :=
  if cs.isEmpty || !cs.all Char.isDigit then none else some (Nat.ofDigitChars 10 cs 0)

/-- The value of digits after an optional sign. -/
def integer? : List Char → Option Int
  | '-' :: cs => (natural? cs).map fun n => -(n : Int)
  | '+' :: cs => (natural? cs).map Int.ofNat
  | cs => (natural? cs).map Int.ofNat

/-- The integer that a text spells, if it lies between the two bounds. -/
def integerWithin? (low high : Int) (cs : List Char) : Option Int :=
  (integer? cs).filter fun n => low ≤ n && n ≤ high

/-- The digits of a natural number, without leading zeros. -/
def write (n : Nat) : List Char := Nat.toDigits 10 n

/-- The digits of an integer, after a minus sign where it is negative. -/
def writeInt : Int → List Char
  | .ofNat n => write n
  | .negSucc n => '-' :: write (n + 1)

/-- Lower bound of a signed word of 64 bits. -/
def int64Min : Int := -9223372036854775808

/-- Upper bound of a signed word of 64 bits. -/
def int64Max : Int := 9223372036854775807

/-- Lower bound of a signed word of 32 bits. -/
def int32Min : Int := -2147483648

/-- Upper bound of a signed word of 32 bits. -/
def int32Max : Int := 2147483647

/-- Upper bound of an unsigned word of 32 bits. -/
def word32Max : Int := 4294967295

/-- Upper bound of an unsigned word of 64 bits. -/
def word64Max : Int := 18446744073709551615

/-- Lower bound of a signed word of 128 bits. -/
def int128Min : Int := -170141183460469231731687303715884105728

/-- Upper bound of a signed word of 128 bits. -/
def int128Max : Int := 170141183460469231731687303715884105727

end SchemaEvolution.Digits
