import SchemaEvolution.Json.Value
import SchemaEvolution.Decimal.Shortest

/-! # JSON text

Two layouts of a JSON value.  `compact` writes no blank; `pretty` puts every entry on a line of
its own, two blanks deeper than its container.  Both are written in front of a given rest, so
that no text is copied twice.  `sorted` orders the members of every object by key.
-/

namespace SchemaEvolution.Json

/-- A hexadecimal digit in small letters. -/
def hexChar (n : Nat) : Char := Nat.digitChar n

/-- A character inside a string.  Quotes, backslashes and control characters are escaped. -/
def escape (c : Char) : List Char :=
  if c = '"' then ['\\', '"']
  else if c = '\\' then ['\\', '\\']
  else if c = '\x08' then ['\\', 'b']
  else if c = '\t' then ['\\', 't']
  else if c = '\n' then ['\\', 'n']
  else if c = '\x0c' then ['\\', 'f']
  else if c = '\r' then ['\\', 'r']
  else if c.toNat < 0x20 then
    ['\\', 'u', '0', '0', hexChar (c.toNat / 16), hexChar (c.toNat % 16)]
  else [c]

def writeString (s : String) (rest : List Char) : List Char :=
  '"' :: s.toList.foldr (fun c after => escape c ++ after) ('"' :: rest)

def writeNumber : JsonNumber → List Char
  | .integer n => Digits.writeInt n
  | .binary x => Shortest.scientific x

mutual
/-- A value without blanks, in front of the rest. -/
def write (v : Json) (rest : List Char) : List Char :=
  match v with
  | .null => 'n' :: 'u' :: 'l' :: 'l' :: rest
  | .bool true => 't' :: 'r' :: 'u' :: 'e' :: rest
  | .bool false => 'f' :: 'a' :: 'l' :: 's' :: 'e' :: rest
  | .number n => writeNumber n ++ rest
  | .string s => writeString s rest
  | .array [] => '[' :: ']' :: rest
  | .array (v :: vs) => '[' :: write v (writeItems vs (']' :: rest))
  | .object [] => '\x7b' :: '\x7d' :: rest
  | .object ((k, v) :: ms) =>
    '\x7b' :: writeString k (':' :: write v (writeMembers ms ('\x7d' :: rest)))

def writeItems (vs : List Json) (rest : List Char) : List Char :=
  match vs with
  | [] => rest
  | v :: vs => ',' :: write v (writeItems vs rest)

def writeMembers (ms : List (String × Json)) (rest : List Char) : List Char :=
  match ms with
  | [] => rest
  | (k, v) :: ms => ',' :: writeString k (':' :: write v (writeMembers ms rest))
end

/-- A value without blanks. -/
def compact (v : Json) : String := String.ofList (write v [])

/-- A line break and the blanks of a depth. -/
def newline (depth : Nat) (rest : List Char) : List Char :=
  '\n' :: (List.replicate (2 * depth) ' ' ++ rest)

mutual
/-- A value over several lines, at a depth, in front of the rest. -/
def layOut (depth : Nat) (v : Json) (rest : List Char) : List Char :=
  match v with
  | .array [] => '[' :: ']' :: rest
  | .array (v :: vs) =>
    '[' :: newline (depth + 1) (layOut (depth + 1) v
      (layOutItems depth vs (newline depth (']' :: rest))))
  | .object [] => '\x7b' :: '\x7d' :: rest
  | .object ((k, v) :: ms) =>
    '\x7b' :: newline (depth + 1) (writeString k (':' :: ' ' :: layOut (depth + 1) v
      (layOutMembers depth ms (newline depth ('\x7d' :: rest)))))
  | v => write v rest

/-- The items after the first one, each on a line. -/
def layOutItems (depth : Nat) (vs : List Json) (rest : List Char) : List Char :=
  match vs with
  | [] => rest
  | v :: vs => ',' :: newline (depth + 1) (layOut (depth + 1) v (layOutItems depth vs rest))

/-- The members after the first one, each on a line. -/
def layOutMembers (depth : Nat) (ms : List (String × Json)) (rest : List Char) : List Char :=
  match ms with
  | [] => rest
  | (k, v) :: ms =>
    ',' :: newline (depth + 1) (writeString k (':' :: ' ' :: layOut (depth + 1) v
      (layOutMembers depth ms rest)))
end

def pretty (v : Json) : String := String.ofList (layOut 0 v [])

/-- Put a member into an object whose members are ordered by key.  A member with the same key
    gives way to it. -/
def insertMember (key : String) (value : Json) : List (String × Json) → List (String × Json)
  | [] => [(key, value)]
  | (k, v) :: ms =>
    if key < k then (key, value) :: (k, v) :: ms
    else if k < key then (k, v) :: insertMember key value ms
    else (key, value) :: ms

mutual
/-- The value with the members of every object in the order of their keys. -/
def sorted (v : Json) : Json :=
  match v with
  | .array vs => .array (sortedItems vs)
  | .object ms => .object (sortedMembers ms [])
  | v => v

/-- The items, each sorted. -/
def sortedItems (vs : List Json) : List Json :=
  match vs with
  | [] => []
  | v :: vs => sorted v :: sortedItems vs

/-- The members, each sorted, put into an object that is already in order. -/
def sortedMembers (ms done : List (String × Json)) : List (String × Json) :=
  match ms with
  | [] => done
  | (k, v) :: ms => sortedMembers ms (insertMember k (sorted v) done)
end

end SchemaEvolution.Json
