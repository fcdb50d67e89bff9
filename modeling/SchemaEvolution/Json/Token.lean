import SchemaEvolution.Json.Value

/-! # JSON tokens

The lexical part of JSON.  `Token.scan?` cuts a text into punctuation, literals, numbers and
strings, and drops the blanks between them.  The body of a string is read by `text?`, one
character or escape at a time.
-/

namespace SchemaEvolution.Json

/-- A lexical unit of JSON. -/
inductive Token
  | openBracket
  | closeBracket
  | openBrace
  | closeBrace
  | comma
  | colon
  /-- A literal or a number. -/
  | scalar (value : Json)
  | text (value : String)

def hexDigit? (c : Char) : Option Nat :=
  if c.isDigit then some (c.toNat - '0'.toNat)
  else if 'a' ≤ c && c ≤ 'f' then some (c.toNat - 'a'.toNat + 10)
  else if 'A' ≤ c && c ≤ 'F' then some (c.toNat - 'A'.toNat + 10)
  else none

def hexWord? (a b c d : Char) : Option Nat := do
  let a ← hexDigit? a
  let b ← hexDigit? b
  let c ← hexDigit? c
  let d ← hexDigit? d
  return ((a * 16 + b) * 16 + c) * 16 + d

/-- The first half of a character beyond the basic plane. -/
def isLeading (n : Nat) : Bool := 0xD800 ≤ n && n < 0xDC00

/-- The second half of a character beyond the basic plane. -/
def isTrailing (n : Nat) : Bool := 0xDC00 ≤ n && n < 0xE000

def unescape? : Char → Option Char
  | '"' => some '"'
  | '\\' => some '\\'
  | '/' => some '/'
  | 'b' => some '\x08'
  | 'f' => some '\x0c'
  | 'n' => some '\n'
  | 'r' => some '\r'
  | 't' => some '\t'
  | _ => none

/-- Put a character in front of the body of a string that has been read. -/
def prepend (c : Char) (read : Option (List Char × List Char)) : Option (List Char × List Char) :=
  read.map fun (body, after) => (c :: body, after)

/-- Read the body of a string up to its closing quote, and return what follows.  A control
    character has to be escaped, and the two halves of a character have to stand together. -/
def text? : List Char → Option (List Char × List Char)
  | [] => none
  | '"' :: rest => some ([], rest)
  | '\\' :: 'u' :: a :: b :: c :: d :: rest =>
    match hexWord? a b c d with
    | none => none
    | some n =>
      if isLeading n then
        match rest with
        | '\\' :: 'u' :: a :: b :: c :: d :: rest =>
          match hexWord? a b c d with
          | none => none
          | some m =>
            if isTrailing m then
              let c := Char.ofNat (0x10000 + (n - 0xD800) * 0x400 + (m - 0xDC00))
              prepend c (text? rest)
            else none
        | _ => none
      else if isTrailing n then none
      else prepend (Char.ofNat n) (text? rest)
  | '\\' :: e :: rest =>
    match unescape? e with
    | none => none
    | some c => prepend c (text? rest)
  | c :: rest =>
    if c.toNat < 0x20 || c = '\\' then none
    else prepend c (text? rest)

def punctuation? : Char → Option Token
  | '[' => some .openBracket
  | ']' => some .closeBracket
  | '\x7b' => some .openBrace
  | '\x7d' => some .closeBrace
  | ',' => some .comma
  | ':' => some .colon
  | _ => none

/-- The blanks of JSON. -/
def isSpace (c : Char) : Bool := c = ' ' || c = '\t' || c = '\n' || c = '\r'

/-- A character of a literal or a number. -/
def isWord (c : Char) : Bool := c.isAlphanum || c = '+' || c = '-' || c = '.'

/-- The literal or number that a word spells. -/
def word? (cs : List Char) : Option Json :=
  if cs = ['n', 'u', 'l', 'l'] then some .null
  else if cs = ['t', 'r', 'u', 'e'] then some (.bool true)
  else if cs = ['f', 'a', 'l', 's', 'e'] then some (.bool false)
  else (JsonNumber.read? cs).map .number

theorem prepend_eq_some {c : Char} {read : Option (List Char × List Char)}
    {body after : List Char} (h : prepend c read = some (body, after)) :
    ∃ tail, read = some (tail, after) ∧ body = c :: tail := by
  simp only [prepend, Option.map_eq_some_iff, Prod.mk.injEq] at h
  obtain ⟨⟨tail, _⟩, found, rfl, rfl⟩ := h
  exact ⟨tail, found, rfl⟩

/-- What follows a string is shorter than the text that began with its body. -/
theorem length_text?_lt {cs body after : List Char} (h : text? cs = some (body, after)) :
    after.length < cs.length := by
  fun_induction text? cs generalizing body after with
  | case2 => cases h; simp
  | case5 | case9 | case11 | case13 =>
    rename_i ih
    obtain ⟨tail, found, _⟩ := prepend_eq_some h
    have shorter := ih found
    simp only [List.length_cons]
    omega
  | _ => cases h

theorem length_dropWhile_le (p : Char → Bool) (cs : List Char) :
    (cs.dropWhile p).length ≤ cs.length :=
  (List.dropWhile_suffix p).length_le

def scan? : List Char → Option (List Token)
  | [] => some []
  | c :: cs =>
    if isSpace c then scan? cs
    else if c = '"' then
      match found : text? cs with
      | none => none
      | some (body, after) =>
        have _ := length_text?_lt found
        (scan? after).map (.text (String.ofList body) :: ·)
    else if isWord c then
      match word? (c :: cs.takeWhile isWord) with
      | none => none
      | some value => (scan? (cs.dropWhile isWord)).map (.scalar value :: ·)
    else
      match punctuation? c with
      | none => none
      | some token => (scan? cs).map (token :: ·)
termination_by cs => cs.length
decreasing_by
  · simp
  · simp only [List.length_cons]
    omega
  · have := length_dropWhile_le isWord cs
    simp only [List.length_cons]
    omega
  · simp

end SchemaEvolution.Json
