import SchemaEvolution.Toml.Assembly
import SchemaEvolution.Toml.Text
import SchemaEvolution.Toml.Word

/-! # Reading TOML

Statements stand one to a line.  A value may hold others, up to a depth of eighty; an array may
extend over lines and hold comments, and a table in braces may not.  A table that starts with a
certain key stands for a date.
-/

namespace SchemaEvolution.Toml

/-- How deep values and paths may go. -/
def depthLimit : Nat := 80

/-- Drop the blanks of a line. -/
def skipBlanks (cs : List Char) : List Char := cs.dropWhile isBlank

/-- What follows a comment at the front of a text; the text itself if there is none. -/
def skipComment : List Char → List Char
  | '#' :: rest => rest.dropWhile fun c => !isControl c
  | cs => cs

/-- Drop blanks, comments and line breaks. -/
def skipLines : Nat → List Char → List Char
  | 0, cs => cs
  | fuel + 1, cs =>
    match cs with
    | [] => []
    | c :: rest =>
      if isBlank c then skipLines fuel rest
      else if c = '#' then skipLines fuel (skipComment (c :: rest))
      else
        match lineBreak? (c :: rest) with
        | some rest => skipLines fuel rest
        | none => c :: rest

/-- Drop blanks, comments and line breaks. -/
def skipSpace (cs : List Char) : List Char := skipLines cs.length cs

/-- A character of a key without quotes. -/
def isKeyChar (c : Char) : Bool := c.isAlphanum || c = '_' || c = '-'

def simpleKey? : List Char → Option (String × List Char)
  | '"' :: rest => shortText? '"' rest
  | '\'' :: rest => shortText? '\'' rest
  | cs =>
    let k := cs.takeWhile isKeyChar
    if k.isEmpty then none else some (String.ofList k, cs.dropWhile isKeyChar)

def keys? : Nat → List Char → Option (List String × List Char)
  | 0, _ => none
  | fuel + 1, cs => do
    let (k, rest) ← simpleKey? (skipBlanks cs)
    match skipBlanks rest with
    | '.' :: rest => (keys? fuel rest).map fun (path, rest) => (k :: path, rest)
    | rest => some ([k], rest)

/-- A path, and what follows it and the blanks behind it. -/
def path? (cs : List Char) : Option (List String × List Char) := keys? (depthLimit - 1) cs

mutual

/-- A value at the front of a text, and what follows it. -/
def value? (fuel depth : Nat) (cs : List Char) : Option (Toml × List Char) :=
  match fuel with
  | 0 => none
  | fuel + 1 =>
    match cs with
    | '"' :: rest => (text? '"' rest).map fun (body, rest) => (string body, rest)
    | '\'' :: rest => (text? '\'' rest).map fun (body, rest) => (string body, rest)
    | '[' :: rest =>
      if depthLimit ≤ depth + 1 then none
      else (items? fuel (depth + 1) (skipSpace rest)).map fun (items, rest) => (array items, rest)
    | '\x7b' :: rest =>
      if depthLimit ≤ depth + 1 then none
      else
        match skipBlanks rest with
        | '\x7d' :: rest => some (table [], rest)
        | rest => do
          let (pairs, rest) ← pairs? fuel (depth + 1) rest
          return (table (← ofStatements? pairs), rest)
    | cs =>
      let (word, rest) := takeWord cs
      (word? word).map (·, rest)

/-- The rest of an array. -/
def items? (fuel depth : Nat) (cs : List Char) : Option (List Toml × List Char) :=
  match fuel with
  | 0 => none
  | fuel + 1 =>
    match cs with
    | ']' :: rest => some ([], rest)
    | cs => do
      let (item, rest) ← value? fuel depth cs
      match skipSpace rest with
      | ',' :: rest =>
        (items? fuel depth (skipSpace rest)).map fun (items, rest) => (item :: items, rest)
      | ']' :: rest => some ([item], rest)
      | _ => none

/-- The rest of a table in braces. -/
def pairs? (fuel depth : Nat) (cs : List Char) : Option (List Statement × List Char) :=
  match fuel with
  | 0 => none
  | fuel + 1 => do
    let (path, rest) ← path? cs
    let (value, rest) ← value? fuel depth (skipBlanks (← exactly? '=' rest))
    match skipBlanks rest with
    | ',' :: rest =>
      (pairs? fuel depth rest).map fun (pairs, rest) => (.assign path value :: pairs, rest)
    | '\x7d' :: rest => some ([.assign path value], rest)
    | _ => none

end

/-- The statement at the front of a text, and what follows it. -/
def statement? (cs : List Char) : Option (Statement × List Char) :=
  match cs with
  | '[' :: '[' :: rest => do
    let (path, rest) ← path? rest
    return (.openItem path, ← exactly? ']' (← exactly? ']' rest))
  | '[' :: rest => do
    let (path, rest) ← path? rest
    return (.openTable path, ← exactly? ']' rest)
  | cs => do
    let (path, rest) ← path? cs
    let rest := skipBlanks (← exactly? '=' rest)
    let (value, rest) ← value? (rest.length + 1) 0 rest
    return (.assign path value, rest)

/-- The end of a line, and what follows it. -/
def lineEnd? (cs : List Char) : Option (List Char) :=
  match skipComment (skipBlanks cs) with
  | [] => some []
  | rest => lineBreak? rest

def statements? : Nat → List Char → Option (List Statement)
  | 0, _ => none
  | fuel + 1, cs =>
    match skipSpace cs with
    | [] => some []
    | cs => do
      let (statement, rest) ← statement? cs
      return statement :: (← statements? fuel (← lineEnd? rest))

/-- The key that a table starts with if it stands for a date, which is given as a string. -/
def momentKey : String := "$__toml_private_datetime"

mutual

/-- A value with dates in place of the tables that stand for them. -/
def withMoments? : Toml → Option Toml
  | .array items => (itemsWithMoments? items).map .array
  | .table [] => some (.table [])
  | .table ((k, value) :: rest) =>
    if k = momentKey then
      match value with
      | .string text => (moment? text.toList).map .moment
      | _ => none
    else do
      let value ← withMoments? value
      return .table ((k, value) :: (← entriesWithMoments? rest))
  | value => some value

/-- Items with dates in place of the tables that stand for them. -/
def itemsWithMoments? : List Toml → Option (List Toml)
  | [] => some []
  | item :: rest => do return (← withMoments? item) :: (← itemsWithMoments? rest)

/-- Entries with dates in place of the tables that stand for them. -/
def entriesWithMoments? : Entries → Option Entries
  | [] => some []
  | (k, value) :: rest => do return (k, ← withMoments? value) :: (← entriesWithMoments? rest)

end

/-- The table that a document describes.  A byte order mark in front does not count. -/
def parse? (text : String) : Option Entries := do
  let cs := match text.toList with
    | '\ufeff' :: rest => rest
    | cs => cs
  match ← withMoments? (.table (← ofStatements? (← statements? (cs.length + 1) cs))) with
  | .table entries => return entries
  | _ => none

end SchemaEvolution.Toml
