import SchemaEvolution.Decimal.Numeral

/-! # Binary floating point of 64 bits

A finite value is a whole mantissa below 2^53 times a power of two from -1074 to 971.
`Binary64.ofDecimal` rounds to the nearest such value, a tie to the even mantissa, in exact
arithmetic on natural numbers.
-/

namespace SchemaEvolution

/-- A value of binary floating point. -/
inductive Binary64
  | nan
  | infinite (negative : Bool)
  /-- `mantissa` times two to the power of `exponent`.  Zero has the exponent zero. -/
  | finite (negative : Bool) (mantissa : Nat) (exponent : Int)
deriving Repr, DecidableEq

namespace Binary64

/-- Two to the power of 53, which every mantissa is below. -/
def mantissaBound : Nat := 9007199254740992

/-- Least power of two of a mantissa. -/
def minExponent : Int := -1074

/-- Greatest power of two of a mantissa. -/
def maxExponent : Int := 971

/-- A quotient rounded to the nearest whole number, a tie to the even one. -/
def roundEven (num den : Nat) : Nat :=
  let whole := num / den
  let rest := 2 * (num % den)
  if rest < den || (rest == den && whole % 2 == 0) then whole else whole + 1

/-- The quotient times two to the power of `-exponent`, as a quotient. -/
def scale (num den : Nat) (exponent : Int) : Nat × Nat :=
  match exponent with
  | .ofNat n => (num, den <<< n)
  | .negSucc n => (num <<< (n + 1), den)

/-- The largest power of two that is not above a positive quotient. -/
def floorLog (num den : Nat) : Int :=
  let guess : Int := (num.log2 : Int) - den.log2
  let (n, d) := scale num den guess
  if d ≤ n then guess else guess - 1

/-- The nearest value to a positive quotient. -/
def ofQuotient (negative : Bool) (num den : Nat) : Binary64 :=
  let exponent := max (floorLog num den - 52) minExponent
  let (n, d) := scale num den exponent
  let mantissa := roundEven n d
  let (mantissa, exponent) :=
    if mantissa == mantissaBound then (mantissaBound / 2, exponent + 1) else (mantissa, exponent)
  if mantissa == 0 then .finite negative 0 0
  else if maxExponent < exponent then .infinite negative
  else .finite negative mantissa exponent

/-- The nearest value to a decimal.  A decimal far beyond the range is settled by its magnitude,
    so that no huge power of ten is formed. -/
def ofDecimal (d : Decimal) : Binary64 :=
  let magnitude := d.exponent + (Digits.write d.digits).length
  if d.digits == 0 || magnitude < -400 then .finite d.negative 0 0
  else if 400 < magnitude then .infinite d.negative
  else match d.exponent with
    | .ofNat n => ofQuotient d.negative (d.digits * Nat.pow 10 n) 1
    | .negSucc n => ofQuotient d.negative d.digits (Nat.pow 10 (n + 1))

/-- Equality of values: the two zeros are equal, and no number equals itself if it is none. -/
def same : Binary64 → Binary64 → Bool
  | .nan, _ | _, .nan => false
  | .finite _ 0 _, .finite _ 0 _ => true
  | x, y => x == y

def nonzero : Binary64 → Bool
  | .finite _ 0 _ => false
  | _ => true

/-- The nearest natural number, half away from zero, held between zero and `limit`. -/
def toNatWithin (limit : Nat) : Binary64 → Nat
  | .nan | .infinite true | .finite true _ _ => 0
  | .infinite false => limit
  | .finite false mantissa (.ofNat n) => min limit (mantissa <<< n)
  | .finite false mantissa (.negSucc n) => min limit ((mantissa + (1 <<< n)) >>> (n + 1))

/-- Read the text of a value: a numeral with a digit on some side of its point, or the words
    `inf`, `infinity` and `nan` in any case, after an optional sign. -/
def read? (cs : List Char) : Option Binary64 :=
  let (negative, word) := match cs with
    | '-' :: rest => (true, rest)
    | '+' :: rest => (false, rest)
    | _ => (false, cs)
  let word := word.map Char.toLower
  if word = ['i', 'n', 'f'] || word = ['i', 'n', 'f', 'i', 'n', 'i', 't', 'y'] then
    some (.infinite negative)
  else if word = ['n', 'a', 'n'] then some .nan
  else
    (Numeral.split? cs).bind fun n =>
      if n.whole.isEmpty && (n.fraction.getD []).isEmpty then none
      else some (ofDecimal n.value)

example : ofDecimal ⟨false, 1, -1⟩ = .finite false 7205759403792794 (-56) := by decide +kernel

example : ofDecimal ⟨false, 5, -324⟩ = .finite false 1 (-1074) := by decide +kernel

example : ofDecimal ⟨false, 18, 307⟩ = .infinite false := by decide +kernel

example : toNatWithin 100 (ofDecimal ⟨false, 25, -1⟩) = 3 := by decide +kernel

end Binary64

end SchemaEvolution
