import SchemaEvolution.Decimal.Binary64

/-! # Decimals read step by step

A quick way to read a numeral.  The leading digits that fit a word of 64 bits become a binary
value, and this is multiplied or divided by a power of ten.  Digits, power and result are rounded
one after the other, so many digits or a large power may lead to a neighbour of the nearest value.
-/

namespace SchemaEvolution.Binary64

/-- The greatest power of ten that is used at once. -/
def maxStep : Nat := 308

/-- Digits appended to a number while it fits a word, and how many are left out. -/
def leading (n : Nat) : List Char → Nat × Nat
  | [] => (n, 0)
  | c :: cs =>
    let next := 10 * n + (c.toNat - '0'.toNat)
    if next ≤ Digits.word64Max then leading next cs else (n, cs.length + 1)

/-- The leading digits of a numeral and the power of ten that goes with them. -/
def leadingParts (n : Numeral) : Nat × Int :=
  let fraction := n.fraction.getD []
  let (whole, wholeLeft) := leading 0 n.whole
  let (digits, fractionLeft) := leading whole fraction
  (digits, n.power.getD 0 + wholeLeft - (fraction.length - fractionLeft))

/-- The value times a power of ten that is rounded itself. -/
def raise (x : Binary64) (power : Nat) : Binary64 :=
  match x, ofDecimal ⟨false, 1, power⟩ with
  | .finite negative m e, .finite _ n f =>
    let (num, den) := scale (m * n) 1 (-(e + f))
    ofQuotient negative num den
  | _, _ => x

/-- The value over a power of ten that is rounded itself. -/
def lower (x : Binary64) (power : Nat) : Binary64 :=
  match x, ofDecimal ⟨false, 1, power⟩ with
  | .finite negative m e, .finite _ n f =>
    let (num, den) := scale m n (f - e)
    ofQuotient negative num den
  | _, _ => x

/-- The value of a numeral, read step by step.  Two steps down leave nothing of a word. -/
def ofNumeral (n : Numeral) : Binary64 :=
  let (digits, power) := leadingParts n
  let negative := n.sign == some '-'
  let x := ofQuotient negative digits 1
  if digits = 0 then .finite negative 0 0
  else match power with
    | .ofNat p => if p ≤ maxStep then x.raise p else .infinite negative
    | .negSucc p =>
      let p := p + 1
      if p ≤ maxStep then x.lower p
      else if p ≤ 2 * maxStep then (x.lower maxStep).lower (p - maxStep)
      else .finite negative 0 0

example : ofNumeral ⟨none, ['0'], some ['1'], none⟩ = ofDecimal ⟨false, 1, -1⟩ := by
  decide +kernel

example : ofNumeral ⟨none, ['5'], none, some (-324)⟩ = .finite false 1 (-1074) := by
  decide +kernel

example : ofNumeral ⟨some '-', ['1'], none, some 309⟩ = .infinite true := by decide +kernel

end SchemaEvolution.Binary64
