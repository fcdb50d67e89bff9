import SchemaEvolution.Decimal.Binary64

/-! # Shortest decimals

The fewest decimal digits that read back as a given binary value, and of those the nearest to it.
A decimal reads back if it lies between the two halfway points to the neighbours, which count as
inside for an even mantissa.  Two layouts are written: `plain` never uses a power of ten, and
`scientific` does outside a window of magnitudes.  They also differ where the value lies halfway
between two decimals that both read back.
-/

namespace SchemaEvolution.Shortest

/-- Which of two decimals is taken that are equally near. -/
inductive Tie
  | even
  | up
deriving Repr, DecidableEq

/-- A positive value and the halfway points to its neighbours, over one denominator. -/
structure Interval where
  low : Nat
  value : Nat
  high : Nat
  den : Nat
  /-- Whether the two ends read back too. -/
  closed : Bool

/-- The interval of the decimals that read back as `mantissa` times a power of two. -/
def interval (mantissa : Nat) (exponent : Int) : Interval :=
  let lowest := mantissa == Binary64.mantissaBound / 2
  let below := if lowest && Binary64.minExponent < exponent then 1 else 2
  let closed := mantissa % 2 == 0
  match exponent - 2 with
  | .ofNat n =>
    ⟨(4 * mantissa - below) <<< n, (4 * mantissa) <<< n, (4 * mantissa + 2) <<< n, 1, closed⟩
  | .negSucc n =>
    ⟨4 * mantissa - below, 4 * mantissa, 4 * mantissa + 2, 1 <<< (n + 1), closed⟩

/-- The interval divided by a power of ten. -/
def Interval.rescale (i : Interval) : Int → Interval
  | .ofNat n => { i with den := i.den * Nat.pow 10 n }
  | .negSucc n =>
    let f := Nat.pow 10 (n + 1)
    { i with low := i.low * f, value := i.value * f, high := i.high * f }

/-- Whether a whole number lies in the interval. -/
def Interval.holds (i : Interval) (n : Nat) : Bool :=
  let place := n * i.den
  if i.closed then i.low ≤ place && place ≤ i.high else i.low < place && place < i.high

/-- The whole number in the interval that is nearest to its value, if one of the two neighbours
    of the value is in it. -/
def Interval.whole? (tie : Tie) (i : Interval) : Option Nat :=
  let below := i.value / i.den
  let above := below + 1
  let rest := 2 * (i.value % i.den)
  let nearer := rest < i.den || (rest == i.den && tie == .even && below % 2 == 0)
  match i.holds below && below != 0, i.holds above with
  | true, true => some (if nearer then below else above)
  | true, false => some below
  | false, true => some above
  | false, false => none

/-- How many digits the whole part of the value has, less one; negative for a fraction. -/
def Interval.magnitude (i : Interval) : Int :=
  if i.den ≤ i.value then (Digits.write (i.value / i.den)).length - 1
  else
    let inverse := (i.den + i.value - 1) / i.value
    let places := (Digits.write (inverse - 1)).length
    Int.negOfNat places

/-- Strip the zeros at the end of the digits into the power of ten. -/
def strip (digits : Nat) (exponent : Int) : Nat × Int :=
  let cs := Digits.write digits
  let zeros := (cs.reverse.takeWhile (· == '0')).length
  (digits / Nat.pow 10 zeros, exponent + zeros)

/-- The digits and the power of ten of the shortest decimal that reads back. -/
def digits (tie : Tie) (mantissa : Nat) (exponent : Int) : Nat × Int :=
  let i := interval mantissa exponent
  let top := i.magnitude
  let found := (List.range 17).findSome? fun n =>
    let power := top - (n : Nat)
    ((i.rescale power).whole? tie).map fun d => (d, power)
  match found with
  | some (d, power) => strip d power
  | none => strip mantissa 0

/-- Digits with a point after the first `places` of them, and zeros where digits are missing. -/
private def pointed (ds : List Char) (places : Int) : List Char × List Char :=
  match places with
  | .ofNat n => (ds.take n ++ List.replicate (n - ds.length) '0', ds.drop n)
  | .negSucc n => ([], List.replicate (n + 1) '0' ++ ds)

/-- The value without any power of ten, and without a point where it is whole.  The greater of two
    equally near magnitudes is taken. -/
def plain : Binary64 → List Char
  | .nan => ['N', 'a', 'N']
  | .infinite negative => if negative then ['-', 'i', 'n', 'f'] else ['i', 'n', 'f']
  | .finite negative 0 _ => if negative then ['-', '0'] else ['0']
  | .finite negative mantissa exponent =>
    let (d, power) := digits .up mantissa exponent
    let ds := Digits.write d
    let (whole, fraction) := pointed ds (ds.length + power)
    (if negative then ['-'] else []) ++ (if whole.isEmpty then ['0'] else whole) ++
      (if fraction.isEmpty then [] else '.' :: fraction)

/-- The value with a point, from 10^-5 up to 10^16, and elsewhere with a power of ten that has a
    sign.  The even one of two equally near decimals is taken. -/
def scientific : Binary64 → List Char
  | .nan | .infinite _ => ['n', 'u', 'l', 'l']
  | .finite negative 0 _ => if negative then ['-', '0', '.', '0'] else ['0', '.', '0']
  | .finite negative mantissa exponent =>
    let (d, power) := digits .even mantissa exponent
    let ds := Digits.write d
    let places : Int := ds.length + power
    let body :=
      if -5 < places && places ≤ 16 then
        let (whole, fraction) := pointed ds places
        (if whole.isEmpty then ['0'] else whole) ++ '.' ::
          (if fraction.isEmpty then ['0'] else fraction)
      else
        ds.take 1 ++ (if ds.length == 1 then [] else '.' :: ds.drop 1) ++ 'e' ::
          (if 0 < places then ['+'] else []) ++ Digits.writeInt (places - 1)
    (if negative then ['-'] else []) ++ body

example : scientific (Binary64.ofDecimal ⟨false, 1, -1⟩) = ['0', '.', '1'] := by decide +kernel

example : scientific (Binary64.ofDecimal ⟨true, 1, 16⟩) = ['-', '1', 'e', '+', '1', '6'] := by
  decide +kernel

example : scientific (Binary64.ofDecimal ⟨false, 58595993603300525, -2⟩) =
      "585959936033005.2".toList ∧
    plain (Binary64.ofDecimal ⟨false, 58595993603300525, -2⟩) = "585959936033005.3".toList := by
  decide +kernel

example : scientific (Binary64.ofDecimal ⟨false, 5, -324⟩) = ['5', 'e', '-', '3', '2', '4'] := by
  decide +kernel

end SchemaEvolution.Shortest
