import SchemaEvolution.Text.Digits

/-! # Writing TOML

Strings and keys in quotes, and lists.  A string with a line break is written over many lines; a
list of two items or more has one item a line.
-/

namespace SchemaEvolution.Toml

def writeChar (manyLines : Bool) (c : Char) : List Char :=
  if c = '\x08' then ['\\', 'b']
  else if c = '\t' then ['\\', 't']
  else if c = '\n' then (if manyLines then ['\n'] else ['\\', 'n'])
  else if c = '\x0c' then ['\\', 'f']
  else if c = '\r' then ['\\', 'r']
  else if c = '"' then ['\\', '"']
  else if c = '\\' then ['\\', '\\']
  else if c.toNat < 0x20 || c = '\x7f' then
    let digits := (Nat.toDigits 16 c.toNat).map Char.toUpper
    ['\\', 'u'] ++ List.replicate (4 - digits.length) '0' ++ digits
  else [c]

def writeLine (text : String) : String :=
  "\"" ++ String.ofList (text.toList.flatMap (writeChar false)) ++ "\""

def writeString (text : String) : String :=
  if text.toList.contains '\n' then
    "\"\"\"\n" ++ String.ofList (text.toList.flatMap (writeChar true)) ++ "\"\"\""
  else writeLine text

/-- A key, in quotes if it needs them. -/
def writeKey (k : String) : String :=
  if !k.isEmpty && k.toList.all (fun c => c.isAlphanum || c = '_' || c = '-') then k
  else writeLine k

def writeStrings : List String → String
  | [] => "[]"
  | [text] => "[" ++ writeString text ++ "]"
  | texts => "[\n" ++ String.join (texts.map fun text => "    " ++ writeString text ++ ",\n") ++ "]"

example : writeStrings ["a", "b"] = "[\n    \"a\",\n    \"b\",\n]" := by decide +kernel

end SchemaEvolution.Toml
