import SchemaEvolution.Text.CodeRange

/-! # Blank characters

The characters of the Unicode property White_Space, and what is left of a text without the blank
ones at its two ends.  The zero-width space and the byte order mark are not blank.
-/

namespace SchemaEvolution.Blank

/-- The code points of White_Space, as closed intervals. -/
def intervals : List (Nat × Nat) :=
  [(0x9, 0xD), (0x20, 0x20), (0x85, 0x85), (0xA0, 0xA0), (0x1680, 0x1680), (0x2000, 0x200A),
   (0x2028, 0x2029), (0x202F, 0x202F), (0x205F, 0x205F), (0x3000, 0x3000)]

/-- Whether a character has the property White_Space. -/
def isBlank (c : Char) : Bool := CodeRange.covers intervals c

/-- Drop the blank characters at both ends. -/
def trim (cs : List Char) : List Char :=
  ((cs.dropWhile isBlank).reverse.dropWhile isBlank).reverse

example : isBlank '\u00a0' = true ∧ isBlank '\u3000' = true ∧ isBlank '\u200b' = false ∧
    isBlank '\ufeff' = false := by decide

example : trim [' ', 'a', ' ', 'b', '\n'] = ['a', ' ', 'b'] := by decide

end SchemaEvolution.Blank
