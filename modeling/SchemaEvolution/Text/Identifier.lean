/-! # Identifiers and qualified names

An identifier starts with an ASCII letter or an underscore and goes on with letters, digits and
underscores.  A qualified name is a chain of identifiers joined by dots.
-/

namespace SchemaEvolution.Identifier

/-- A character that may start an identifier. -/
def isStart (c : Char) : Bool := c.isAlpha || c == '_'

/-- A character that may follow in an identifier. -/
def isFollow (c : Char) : Bool := c.isAlphanum || c == '_'

def isIdentifier : List Char → Bool
  | [] => false
  | c :: cs => isStart c && cs.all isFollow

/-- Whether the characters spell identifiers joined by dots. -/
def isQualified (cs : List Char) : Bool := (cs.splitOn '.').all isIdentifier

/-- The last part of a qualified name. -/
def simpleName (name : String) : List Char :=
  (name.toList.splitOn '.').getLastD []

example : isQualified ['a', '.', '_', '1'] = true ∧ isQualified ['a', '.'] = false ∧
    isQualified [] = false ∧ isQualified ['a', '\n'] = false := by decide

end SchemaEvolution.Identifier
