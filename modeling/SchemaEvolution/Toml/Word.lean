import SchemaEvolution.Toml.Moment
import SchemaEvolution.Toml.Value

/-! # TOML values without quotes

Truth values, integers in four bases, floats and dates.  An underscore may stand between two
digits.  Integers have 64 bits and a sign.
-/

namespace SchemaEvolution.Toml

/-- Drop the underscores that stand between two digits; fails if there are others. -/
def joinDigits? (isDigit : Char → Bool) : List Char → Option (List Char)
  | [] => some []
  | '_' :: _ => none
  | [c] => some [c]
  | c :: '_' :: d :: rest =>
    if isDigit c && isDigit d then (joinDigits? isDigit (d :: rest)).map (c :: ·) else none
  | c :: rest => (joinDigits? isDigit rest).map (c :: ·)

/-- The value of a digit in some base up to sixteen. -/
def digitValue (c : Char) : Nat :=
  if c.isDigit then c.toNat - '0'.toNat
  else if 'a' ≤ c && c ≤ 'f' then c.toNat - 'a'.toNat + 10
  else if 'A' ≤ c && c ≤ 'F' then c.toNat - 'A'.toNat + 10
  else 16

/-- An integer of 64 bits. -/
def inRange? (n : Int) : Option Toml :=
  if Digits.int64Min ≤ n && n ≤ Digits.int64Max then some (.integer n) else none

/-- An integer in a base, behind its mark. -/
def based? (base : Nat) (cs : List Char) : Option Toml := do
  let digits ← joinDigits? (digitValue · < base) cs
  if digits.isEmpty || !digits.all (digitValue · < base) then none
  inRange? (digits.foldl (fun n c => n * base + digitValue c) 0 : Nat)

/-- An integer or a float in decimal digits. -/
def decimal? (cs : List Char) : Option Toml := do
  let n ← Numeral.split? (← joinDigits? Char.isDigit cs)
  if !n.plainWhole || n.fraction = some [] then none
  if n.fraction.isNone && n.power.isNone then
    let magnitude : Int := Nat.ofDigitChars 10 n.whole 0
    inRange? (if n.sign = some '-' then -magnitude else magnitude)
  else
    match Binary64.ofDecimal n.value with
    | .infinite false => none
    | value => some (.float value)

/-- The words that stand for floats without digits. -/
def floatWord? (negative : Bool) (cs : List Char) : Option Toml :=
  if cs = ['i', 'n', 'f'] then some (.float (.infinite negative))
  else if cs = ['n', 'a', 'n'] then some (.float .nan)
  else none

/-- The value that a word stands for. -/
def word? (cs : List Char) : Option Toml :=
  match cs with
  | ['t', 'r', 'u', 'e'] => some (.bool true)
  | ['f', 'a', 'l', 's', 'e'] => some (.bool false)
  | '0' :: 'x' :: rest => based? 16 rest
  | '0' :: 'o' :: rest => based? 8 rest
  | '0' :: 'b' :: rest => based? 2 rest
  | '+' :: rest => (floatWord? false rest).or (decimal? cs)
  | '-' :: rest => (floatWord? true rest).or (decimal? cs)
  | _ => ((floatWord? false cs).or (decimal? cs)).or ((moment? cs).map moment)

def isWord (c : Char) : Bool := c.isAlphanum || ['_', '+', '-', '.', ':'].contains c

/-- A word at the front of a text.  A blank between a date and a time belongs to it. -/
def takeWord (cs : List Char) : List Char × List Char :=
  let word := cs.takeWhile isWord
  match cs.dropWhile isWord with
  | ' ' :: c :: rest =>
    if c.isDigit && ((date? word).map Prod.snd) = some [] then
      (word ++ ' ' :: (c :: rest).takeWhile isWord, (c :: rest).dropWhile isWord)
    else (word, ' ' :: c :: rest)
  | rest => (word, rest)

end SchemaEvolution.Toml
