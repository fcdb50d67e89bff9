import SchemaEvolution.Calendar.Date
import SchemaEvolution.Text.Blank
import SchemaEvolution.Text.Digits

/-! # Timestamps

Moments in UTC, to the nanosecond.  A moment may be written in any offset, with a letter or a
blank between date and time, and with blanks around its parts; it is shown in UTC with as many
groups of three fraction digits as it needs.  A leap second is the second 60 of a minute.
-/

namespace SchemaEvolution

/-- A moment. -/
structure Timestamp where
  day : Int
  second : Nat
  /-- Nanoseconds; more than a second of them in a leap second. -/
  nano : Nat
deriving Repr, DecidableEq

namespace Timestamp

/-- The start of the count of days. -/
def epoch : Timestamp := ⟨0, 0, 0⟩

/-- Digits with zeros in front, up to a width. -/
def padded (width n : Nat) : String :=
  let digits := Digits.write n
  String.ofList (List.replicate (width - digits.length) '0' ++ digits)

/-- A year in four digits, or with a sign in front where four are not enough. -/
def yearText (year : Int) : String :=
  if 0 ≤ year && year ≤ 9999 then padded 4 year.toNat
  else (if year < 0 then "-" else "+") ++ padded 4 year.natAbs

def fractionText (nano : Nat) : String :=
  if nano = 0 then ""
  else if nano % 1000000 = 0 then "." ++ padded 3 (nano / 1000000)
  else if nano % 1000 = 0 then "." ++ padded 6 (nano / 1000)
  else "." ++ padded 9 nano

def text (t : Timestamp) : String :=
  let date := Date.ofNumber t.day
  let leap := 1000000000 ≤ t.nano
  let second := t.second % 60 + (if leap then 1 else 0)
  let nano := if leap then t.nano - 1000000000 else t.nano
  String.intercalate "-" [yearText date.year, padded 2 date.month, padded 2 date.day] ++ "T" ++
    String.intercalate ":" [padded 2 (t.second / 3600), padded 2 (t.second / 60 % 60),
      padded 2 second] ++ fractionText nano ++ "Z"

/-- Drop blanks. -/
def skipBlanks (cs : List Char) : List Char := cs.dropWhile Blank.isBlank

/-- A number of at most so many digits, after blanks. -/
def number? (most : Nat) (cs : List Char) : Option (Nat × List Char) :=
  let cs := skipBlanks cs
  let digits := (cs.take most).takeWhile Char.isDigit
  (Digits.natural? digits).map (·, cs.drop digits.length)

/-- A year: four digits at most, or any number of them after a sign. -/
def year? (cs : List Char) : Option (Int × List Char) :=
  match skipBlanks cs with
  | '-' :: rest => do
    let (n, rest) ← unbounded? rest
    return (-(n : Int), rest)
  | '+' :: rest => (unbounded? rest).map fun (n, rest) => (n, rest)
  | rest => (number? 4 rest).map fun (n, rest) => (n, rest)
where
  /-- All digits that follow. -/
  unbounded? (cs : List Char) : Option (Nat × List Char) :=
    (Digits.natural? (cs.takeWhile Char.isDigit)).map (·, cs.dropWhile Char.isDigit)

/-- A mark, after blanks. -/
def mark? (mark : Char) (cs : List Char) : Option (List Char) :=
  match skipBlanks cs with
  | [] => none
  | c :: rest => if c = mark then some rest else none

/-- A fraction of a second in nanoseconds; digits beyond the ninth do not count. -/
def fraction? : List Char → Option (Nat × List Char)
  | '.' :: cs =>
    let digits := cs.takeWhile Char.isDigit
    let kept := digits.take 9
    (Digits.natural? kept).map fun n =>
      (n * Nat.pow 10 (9 - kept.length), cs.dropWhile Char.isDigit)
  | cs => some (0, cs)

def twoDigits? : List Char → Option (Nat × List Char)
  | a :: b :: rest => (Digits.natural? [a, b]).map (·, rest)
  | _ => none

def offset? (cs : List Char) : Option (Int × List Char) :=
  match cs with
  | 'Z' :: rest | 'z' :: rest => some (0, rest)
  | '+' :: rest => hoursAndMinutes? 1 rest
  | '-' :: rest | '−' :: rest => hoursAndMinutes? (-1) rest
  | a :: b :: c :: rest =>
    if [a, b, c].map Char.toUpper = ['U', 'T', 'C'] then some (0, rest) else none
  | _ => none
where
  /-- The hours and minutes behind a sign. -/
  hoursAndMinutes? (sign : Int) (cs : List Char) : Option (Int × List Char) := do
    let (hours, rest) ← twoDigits? cs
    let (minutes, rest) ← twoDigits? (rest.dropWhile fun c => c = ':' || Blank.isBlank c)
    if minutes < 60 && hours < 24 then return (sign * (hours * 60 + minutes), rest) else none

/-- The moment of a local time in an offset of minutes. -/
def ofLocal? (date : Date) (hour minute second nano : Nat) (offset : Int) : Option Timestamp :=
  if !date.exists? || 23 < hour || 59 < minute || 60 < second then none
  else
    let leap := second = 60
    let local_ : Int := hour * 3600 + minute * 60 + (if leap then 59 else second)
    let utc := date.number * 86400 + local_ - offset * 60
    let moment : Timestamp :=
      ⟨utc / 86400, (utc % 86400).toNat, if leap then nano + 1000000000 else nano⟩
    if (Date.ofNumber moment.day).exists? then some moment else none

def read? (text : String) : Option Timestamp := do
  let (year, cs) ← year? text.toList
  let (month, cs) ← number? 2 (← mark? '-' cs)
  let (day, cs) ← number? 2 (← mark? '-' cs)
  let cs ← match cs with
    | 'T' :: rest | 't' :: rest | ' ' :: rest => some rest
    | _ => none
  let (hour, cs) ← number? 2 cs
  let (minute, cs) ← number? 2 (← mark? ':' cs)
  let (second, cs) ← number? 2 (← mark? ':' cs)
  let (nano, cs) ← fraction? cs
  let (offset, cs) ← offset? (skipBlanks cs)
  if !(skipBlanks cs).isEmpty then none
  ofLocal? ⟨year, month, day⟩ hour minute second nano offset

example : (read? "2024-12-31T23:30:00-01:00").map text = some "2025-01-01T00:30:00Z" := by
  decide +kernel

example : (read? "2024-02-30T00:00:00Z").map text = none := by
  decide +kernel

end Timestamp

end SchemaEvolution
