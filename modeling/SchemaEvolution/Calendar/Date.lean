/-! # Dates

Days of the Gregorian calendar, counted from 1 January 1970.  The year of the count begins in
March, so that the day that a leap year adds is the last one.
-/

namespace SchemaEvolution

/-- A day of the calendar. -/
structure Date where
  year : Int
  month : Nat
  day : Nat
deriving Repr, DecidableEq

namespace Date

/-- Whether a year has a 29 February. -/
def isLeap (year : Int) : Bool := year % 4 = 0 && (year % 100 ≠ 0 || year % 400 = 0)

def monthLength (year : Int) (month : Nat) : Nat :=
  if month = 2 then (if isLeap year then 29 else 28)
  else if [4, 6, 9, 11].contains month then 30
  else 31

/-- Whether the calendar has the day, in a year that the count can hold. -/
def exists? (d : Date) : Bool :=
  -262143 ≤ d.year && d.year ≤ 262142 && 1 ≤ d.month && d.month ≤ 12 && 1 ≤ d.day &&
    d.day ≤ monthLength d.year d.month

def number (d : Date) : Int :=
  let year := if d.month ≤ 2 then d.year - 1 else d.year
  let month : Int := (d.month + 9) % 12
  let era := year / 400
  let yearOfEra := year - era * 400
  let dayOfYear := (153 * month + 2) / 5 + d.day - 1
  era * 146097 + (yearOfEra * 365 + yearOfEra / 4 - yearOfEra / 100 + dayOfYear) - 719468

def ofNumber (n : Int) : Date :=
  let z := n + 719468
  let era := z / 146097
  let dayOfEra := z - era * 146097
  let yearOfEra := (dayOfEra - dayOfEra / 1460 + dayOfEra / 36524 - dayOfEra / 146096) / 365
  let dayOfYear := dayOfEra - (365 * yearOfEra + yearOfEra / 4 - yearOfEra / 100)
  let month := ((5 * dayOfYear + 2) / 153).toNat
  let day := (dayOfYear - (153 * month + 2) / 5 + 1).toNat
  let year := yearOfEra + era * 400
  if month < 10 then ⟨year, month + 3, day⟩ else ⟨year + 1, month - 9, day⟩

example : number ⟨1970, 1, 1⟩ = 0 ∧ number ⟨2024, 3, 1⟩ = 19783 := by decide

example : ofNumber 19782 = ⟨2024, 2, 29⟩ ∧ ofNumber (-1) = ⟨1969, 12, 31⟩ := by decide

end Date

end SchemaEvolution
