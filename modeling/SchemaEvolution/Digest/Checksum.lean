import SchemaEvolution.Digest.Sha256

/-! # Checksums

The fingerprint of a text or of a JSON value.  Two JSON values that differ only in the order of
the members of their objects have one fingerprint.
-/

namespace SchemaEvolution

/-- A fingerprint in hexadecimal digits. -/
structure Checksum where
  hex : String
deriving Repr, DecidableEq

namespace Checksum

/-- The fingerprint of the UTF-8 bytes of a text. -/
def ofText (text : String) : Checksum :=
  ⟨String.ofList (Sha256.digest text.toUTF8.toList).hex⟩

/-- The fingerprint of a JSON value, through its compact text with sorted keys. -/
def ofJson (value : Json) : Checksum := ofText value.sorted.compact

/-- As many characters from the front as fit into a number of UTF-8 bytes. -/
def takeBytes (room : Nat) : List Char → List Char
  | [] => []
  | c :: cs => if c.utf8Size ≤ room then c :: takeBytes (room - c.utf8Size) cs else []

/-- The first twelve bytes, for people to read. -/
def short (c : Checksum) : String := String.ofList (takeBytes 12 c.hex.toList)

end Checksum

end SchemaEvolution
