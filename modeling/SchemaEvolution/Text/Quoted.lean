import SchemaEvolution.Text.Joining
import SchemaEvolution.Text.Unseen

/-! # Quoted characters

How a message shows one character: between single quotes, with an escape for the quote, the
backslash and four controls, and by its number if it has no picture or joins the one before it.
-/

namespace SchemaEvolution.Quoted

/-- A character as it stands between the quotes. -/
def escape (c : Char) : List Char :=
  if c = '\'' then ['\\', '\'']
  else if c = '\\' then ['\\', '\\']
  else if c = '\x00' then ['\\', '0']
  else if c = '\t' then ['\\', 't']
  else if c = '\n' then ['\\', 'n']
  else if c = '\r' then ['\\', 'r']
  else if Joining.isJoining c || Unseen.isUnseen c then
    ['\\', 'u', '\x7b'] ++ Nat.toDigits 16 c.toNat ++ ['\x7d']
  else [c]

def quote (c : Char) : String := String.ofList ('\'' :: (escape c ++ ['\'']))

example : quote 'é' = "'é'" ∧ quote '\'' = "'\\''" ∧ quote '"' = "'\"'" := by decide +kernel

example : escape '\u0941' = "\\u\x7b941\x7d".toList ∧ escape '\u0378' = "\\u\x7b378\x7d".toList :=
  by decide +kernel

end SchemaEvolution.Quoted
