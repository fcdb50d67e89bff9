import SchemaEvolution.Calendar.Timestamp

/-! # Dates in TOML

A date, a time, or both with an optional offset.  The normal form has the letter T between date
and time, no fraction that is zero, and no zeros at the end of a fraction.
-/

namespace SchemaEvolution.Toml

/-- A number of exactly so many digits. -/
def fixed? (width : Nat) (cs : List Char) : Option (Nat × List Char) :=
  let digits := cs.take width
  if digits.length = width then (Digits.natural? digits).map (·, cs.drop width) else none

def exactly? (c : Char) : List Char → Option (List Char)
  | d :: rest => if d = c then some rest else none
  | [] => none

def date? (cs : List Char) : Option (String × List Char) := do
  let (year, cs) ← fixed? 4 cs
  let (month, cs) ← fixed? 2 (← exactly? '-' cs)
  let (day, cs) ← fixed? 2 (← exactly? '-' cs)
  let date : Date := ⟨year, month, day⟩
  if !date.exists? then none
  return (String.intercalate "-" [Timestamp.padded 4 year, Timestamp.padded 2 month,
    Timestamp.padded 2 day], cs)

/-- The fraction of a second in its normal form. -/
def fractionText (nano : Nat) : String :=
  if nano = 0 then ""
  else
    let digits := (Timestamp.padded 9 nano).toList
    "." ++ String.ofList (digits.reverse.dropWhile (· = '0')).reverse

/-- A time of the day and what follows it. -/
def time? (cs : List Char) : Option (String × List Char) := do
  let (hour, cs) ← fixed? 2 cs
  let (minute, cs) ← fixed? 2 (← exactly? ':' cs)
  let (second, cs) ← fixed? 2 (← exactly? ':' cs)
  let (nano, cs) ← Timestamp.fraction? cs
  if 23 < hour || 59 < minute || 60 < second then none
  return (String.intercalate ":" [Timestamp.padded 2 hour, Timestamp.padded 2 minute,
    Timestamp.padded 2 second] ++ fractionText nano, cs)

def offset? : List Char → Option String
  | [] => some ""
  | ['Z'] | ['z'] => some "Z"
  | sign :: cs => do
    if sign ≠ '+' && sign ≠ '-' then none
    let (hours, cs) ← fixed? 2 cs
    let (minutes, cs) ← fixed? 2 (← exactly? ':' cs)
    if 23 < hours || 59 < minutes || !cs.isEmpty then none
    let sign := if sign = '-' && 0 < hours + minutes then "-" else "+"
    return sign ++ Timestamp.padded 2 hours ++ ":" ++ Timestamp.padded 2 minutes

/-- The normal form of a date, a time, or both. -/
def moment? (cs : List Char) : Option String :=
  match date? cs with
  | none => do
    let (time, rest) ← time? cs
    if rest.isEmpty then return time else none
  | some (date, []) => some date
  | some (date, mark :: rest) => do
    if mark ≠ 'T' && mark ≠ 't' && mark ≠ ' ' then none
    let (time, rest) ← time? rest
    return date ++ "T" ++ time ++ (← offset? rest)

example : moment? "1979-05-27 00:32:00.500-07:00".toList = some "1979-05-27T00:32:00.5-07:00" ∧
    moment? "24:00:00".toList = none := by
  decide +kernel

end SchemaEvolution.Toml
