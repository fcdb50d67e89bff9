import SchemaEvolution.Json.Printer

/-! # SHA-256

The digest of a sequence of bytes, as eight words of 32 bits and in hexadecimal.
-/

namespace SchemaEvolution.Sha256

/-- The eight words of the running digest. -/
structure State where
  a : UInt32
  b : UInt32
  c : UInt32
  d : UInt32
  e : UInt32
  f : UInt32
  g : UInt32
  h : UInt32

def State.initial : State :=
  ⟨0x6a09e667, 0xbb67ae85, 0x3c6ef372, 0xa54ff53a, 0x510e527f, 0x9b05688c, 0x1f83d9ab, 0x5be0cd19⟩

/-- The constants of the 64 rounds. -/
def roundConstants : List UInt32 :=
  [0x428a2f98, 0x71374491, 0xb5c0fbcf, 0xe9b5dba5, 0x3956c25b, 0x59f111f1, 0x923f82a4, 0xab1c5ed5,
   0xd807aa98, 0x12835b01, 0x243185be, 0x550c7dc3, 0x72be5d74, 0x80deb1fe, 0x9bdc06a7, 0xc19bf174,
   0xe49b69c1, 0xefbe4786, 0x0fc19dc6, 0x240ca1cc, 0x2de92c6f, 0x4a7484aa, 0x5cb0a9dc, 0x76f988da,
   0x983e5152, 0xa831c66d, 0xb00327c8, 0xbf597fc7, 0xc6e00bf3, 0xd5a79147, 0x06ca6351, 0x14292967,
   0x27b70a85, 0x2e1b2138, 0x4d2c6dfc, 0x53380d13, 0x650a7354, 0x766a0abb, 0x81c2c92e, 0x92722c85,
   0xa2bfe8a1, 0xa81a664b, 0xc24b8b70, 0xc76c51a3, 0xd192e819, 0xd6990624, 0xf40e3585, 0x106aa070,
   0x19a4c116, 0x1e376c08, 0x2748774c, 0x34b0bcb5, 0x391c0cb3, 0x4ed8aa4a, 0x5b9cca4f, 0x682e6ff3,
   0x748f82ee, 0x78a5636f, 0x84c87814, 0x8cc70208, 0x90befffa, 0xa4506ceb, 0xbef9a3f7, 0xc67178f2]

/-- Rotate the bits of a word to the right. -/
def rotate (w : UInt32) (n : UInt32) : UInt32 := (w >>> n) ||| (w <<< (32 - n))

/-- The sixteen words of a block followed by the 48 words derived from them. -/
def schedule (block : List UInt32) : Array UInt32 :=
  (List.range 48).foldl
    (fun words i =>
      let w15 := words.getD (i + 1) 0
      let w2 := words.getD (i + 14) 0
      let s0 := rotate w15 7 ^^^ rotate w15 18 ^^^ (w15 >>> 3)
      let s1 := rotate w2 17 ^^^ rotate w2 19 ^^^ (w2 >>> 10)
      words.push (words.getD i 0 + s0 + words.getD (i + 9) 0 + s1))
    block.toArray

/-- One round, with its constant and its word. -/
def State.round (s : State) (constant word : UInt32) : State :=
  let s1 := rotate s.e 6 ^^^ rotate s.e 11 ^^^ rotate s.e 25
  let choice := (s.e &&& s.f) ^^^ (~~~s.e &&& s.g)
  let t1 := s.h + s1 + choice + constant + word
  let s0 := rotate s.a 2 ^^^ rotate s.a 13 ^^^ rotate s.a 22
  let majority := (s.a &&& s.b) ^^^ (s.a &&& s.c) ^^^ (s.b &&& s.c)
  ⟨t1 + s0 + majority, s.a, s.b, s.c, s.d + t1, s.e, s.f, s.g⟩

/-- Take in one block of sixteen words. -/
def State.absorb (s : State) (block : List UInt32) : State :=
  let t := (roundConstants.zip (schedule block).toList).foldl (fun t (k, w) => t.round k w) s
  ⟨s.a + t.a, s.b + t.b, s.c + t.c, s.d + t.d, s.e + t.e, s.f + t.f, s.g + t.g, s.h + t.h⟩

/-- The bytes with a one bit, zeros and the length in bits behind them, a multiple of 64. -/
def pad (bytes : List UInt8) : List UInt8 :=
  let zeros := (119 - bytes.length % 64) % 64
  let bits := 8 * bytes.length
  let lengthBytes := (List.range 8).map fun i => (bits >>> (8 * (7 - i))).toUInt8
  bytes ++ 0x80 :: (List.replicate zeros 0 ++ lengthBytes)

/-- Four bytes to a word, the most significant one first. -/
def words : List UInt8 → List UInt32
  | a :: b :: c :: d :: rest =>
    ((a.toUInt32 <<< 24) ||| (b.toUInt32 <<< 16) ||| (c.toUInt32 <<< 8) ||| d.toUInt32) ::
      words rest
  | _ => []

def blocks (ws : List UInt32) : List (List UInt32) :=
  match ws with
  | [] => []
  | w :: rest => (w :: rest.take 15) :: blocks (rest.drop 15)
termination_by ws.length
decreasing_by simp only [List.length_drop, List.length_cons]; omega

/-- The digest of a sequence of bytes. -/
def digest (bytes : List UInt8) : State :=
  (blocks (words (pad bytes))).foldl State.absorb State.initial

def hexWord (w : UInt32) : List Char :=
  (List.range 8).map fun i => Json.hexChar ((w.toNat >>> (4 * (7 - i))) % 16)

/-- The digest in 64 hexadecimal digits. -/
def State.hex (s : State) : List Char :=
  [s.a, s.b, s.c, s.d, s.e, s.f, s.g, s.h].flatMap hexWord

end SchemaEvolution.Sha256
