import SchemaEvolution.Json.Token

/-! # Strings in TOML

Four kinds of strings: between single or double quotes, on one line or between three quotes on
many.  Single quotes keep everything as it is; double quotes know escapes.  A line break right
behind three quotes does not count, and a backslash at the end of a line between three double
quotes drops the blanks up to the next word.
-/

namespace SchemaEvolution.Toml

/-- A control character that no string may hold. -/
def isControl (c : Char) : Bool := (c.toNat < 0x20 && c ≠ '\t') || c = '\x7f'

def hexValue? (digits : List Char) : Option Nat :=
  digits.foldlM (fun n c => (Json.hexDigit? c).map (n * 16 + ·)) 0

/-- A character by its number in so many hexadecimal digits. -/
def codePoint? (width : Nat) (cs : List Char) : Option (Char × List Char) := do
  let digits := cs.take width
  if digits.length ≠ width then none
  let n ← hexValue? digits
  if n < 0xD800 || (0xE000 ≤ n && n < 0x110000) then return (Char.ofNat n, cs.drop width) else none

/-- The character behind a backslash, and what follows it. -/
def escape? : List Char → Option (Char × List Char)
  | 'b' :: rest => some ('\x08', rest)
  | 't' :: rest => some ('\t', rest)
  | 'n' :: rest => some ('\n', rest)
  | 'f' :: rest => some ('\x0c', rest)
  | 'r' :: rest => some ('\r', rest)
  | '"' :: rest => some ('"', rest)
  | '\\' :: rest => some ('\\', rest)
  | 'u' :: rest => codePoint? 4 rest
  | 'U' :: rest => codePoint? 8 rest
  | _ => none

/-- What follows a line break at the front of a text. -/
def lineBreak? : List Char → Option (List Char)
  | '\n' :: rest => some rest
  | '\r' :: '\n' :: rest => some rest
  | _ => none

/-- A blank within a line. -/
def isBlank (c : Char) : Bool := c = ' ' || c = '\t'

/-- Drop blanks and line breaks. -/
def nextWord : List Char → List Char
  | '\r' :: '\n' :: rest => nextWord rest
  | c :: rest => if isBlank c || c = '\n' then nextWord rest else c :: rest
  | [] => []

/-- What follows a backslash at the end of a line: the text from the next word on. -/
def continued? (cs : List Char) : Option (List Char) :=
  (lineBreak? (cs.dropWhile isBlank)).map nextWord

/-- The quotes that end a string of many lines: three, with up to two that belong to it. -/
def closing? (quote : Char) (cs : List Char) : Option (List Char × List Char) :=
  let count := min 5 (cs.takeWhile (· = quote)).length
  if 3 ≤ count then some (List.replicate (count - 3) quote, cs.drop count) else none

/-- The rest of a string on one line. -/
def oneLine? (quote : Char) : Nat → List Char → Option (List Char × List Char)
  | 0, _ => none
  | _, [] => none
  | fuel + 1, c :: rest =>
    if c = quote then some ([], rest)
    else if isControl c then none
    else if c = '\\' && quote = '"' then do
      let (d, rest) ← escape? rest
      Json.prepend d (oneLine? quote fuel rest)
    else Json.prepend c (oneLine? quote fuel rest)

/-- The rest of a string of many lines. -/
def manyLines? (quote : Char) : Nat → List Char → Option (List Char × List Char)
  | 0, _ => none
  | _, [] => none
  | fuel + 1, c :: rest =>
    match closing? quote (c :: rest), lineBreak? (c :: rest) with
    | some done, _ => some done
    | none, some rest => Json.prepend '\n' (manyLines? quote fuel rest)
    | none, none =>
      if isControl c then none
      else if c = '\\' && quote = '"' then
        match continued? rest with
        | some rest => manyLines? quote fuel rest
        | none => do
          let (d, rest) ← escape? rest
          Json.prepend d (manyLines? quote fuel rest)
      else Json.prepend c (manyLines? quote fuel rest)

/-- A string on one line, behind its first quote. -/
def shortText? (quote : Char) (cs : List Char) : Option (String × List Char) :=
  (oneLine? quote (cs.length + 1) cs).map fun (body, rest) => (String.ofList body, rest)

def text? (quote : Char) (cs : List Char) : Option (String × List Char) :=
  match cs with
  | a :: b :: rest =>
    if a = quote && b = quote then
      let body := (lineBreak? rest).getD rest
      (manyLines? quote (body.length + 1) body).map fun (body, rest) => (String.ofList body, rest)
    else shortText? quote cs
  | _ => shortText? quote cs

end SchemaEvolution.Toml
