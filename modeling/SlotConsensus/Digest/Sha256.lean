import SlotConsensus.Bytes.Endian

/-! SHA-256: blocks of 64 bytes, a state of eight 32-bit words, and a digest of 32 bytes. -/

namespace SlotConsensus.Sha256

abbrev State := Vector UInt32 8

/-- The fractional parts of the square roots of the first eight primes. -/
def start : State :=
  #v[0x6a09e667, 0xbb67ae85, 0x3c6ef372, 0xa54ff53a,
     0x510e527f, 0x9b05688c, 0x1f83d9ab, 0x5be0cd19]

/-- The fractional parts of the cube roots of the first 64 primes. -/
def roundConstants : List UInt32 :=
  [0x428a2f98, 0x71374491, 0xb5c0fbcf, 0xe9b5dba5, 0x3956c25b, 0x59f111f1,
   0x923f82a4, 0xab1c5ed5, 0xd807aa98, 0x12835b01, 0x243185be, 0x550c7dc3,
   0x72be5d74, 0x80deb1fe, 0x9bdc06a7, 0xc19bf174, 0xe49b69c1, 0xefbe4786,
   0x0fc19dc6, 0x240ca1cc, 0x2de92c6f, 0x4a7484aa, 0x5cb0a9dc, 0x76f988da,
   0x983e5152, 0xa831c66d, 0xb00327c8, 0xbf597fc7, 0xc6e00bf3, 0xd5a79147,
   0x06ca6351, 0x14292967, 0x27b70a85, 0x2e1b2138, 0x4d2c6dfc, 0x53380d13,
   0x650a7354, 0x766a0abb, 0x81c2c92e, 0x92722c85, 0xa2bfe8a1, 0xa81a664b,
   0xc24b8b70, 0xc76c51a3, 0xd192e819, 0xd6990624, 0xf40e3585, 0x106aa070,
   0x19a4c116, 0x1e376c08, 0x2748774c, 0x34b0bcb5, 0x391c0cb3, 0x4ed8aa4a,
   0x5b9cca4f, 0x682e6ff3, 0x748f82ee, 0x78a5636f, 0x84c87814, 0x8cc70208,
   0x90befffa, 0xa4506ceb, 0xbef9a3f7, 0xc67178f2]

def rotateRight (w k : UInt32) : UInt32 := (w >>> k) ||| (w <<< (32 - k))

/-- The words of a block, then each further word made of those 2, 7, 15 and 16 places before it.
The words stand in reverse order, and `count` words are still to be added. -/
def expand : Nat → List UInt32 → List UInt32
  | 0, words => words
  | count + 1, words =>
    let near := words.getD 1 0
    let far := words.getD 14 0
    let word := words.getD 15 0 + words.getD 6 0 +
      (rotateRight far 7 ^^^ rotateRight far 18 ^^^ (far >>> 3)) +
      (rotateRight near 17 ^^^ rotateRight near 19 ^^^ (near >>> 10))
    expand count (word :: words)

/-- One round with the constant and the message word already added up. -/
def round (s : State) (k : UInt32) : State :=
  let a := s[0]; let b := s[1]; let c := s[2]; let e := s[4]; let f := s[5]; let g := s[6]
  let choice := (e &&& f) ^^^ (~~~e &&& g)
  let majority := (a &&& b) ^^^ (a &&& c) ^^^ (b &&& c)
  let t := s[7] + (rotateRight e 6 ^^^ rotateRight e 11 ^^^ rotateRight e 25) + choice + k
  #v[t + (rotateRight a 2 ^^^ rotateRight a 13 ^^^ rotateRight a 22) + majority,
    a, b, c, s[3] + t, e, f, g]

/-- The words of a block of 64 bytes, first to last. -/
def words : Nat → List UInt8 → List UInt32
  | 0, _ => []
  | count + 1, bytes =>
    (Bytes.ofBigEndian (bytes.take 4)).toUInt32 :: words count (bytes.drop 4)

def compress (s : State) (block : List UInt8) : State :=
  let message := (expand 48 (words 16 block).reverse).reverse
  let final := (List.zipWith (· + ·) roundConstants message).foldl round s
  Vector.zipWith (· + ·) s final

/-- The first `count` blocks of a message, taken into the state one after the other. -/
def compressAll : Nat → List UInt8 → State → State
  | 0, _, s => s
  | count + 1, bytes, s => compressAll count (bytes.drop 64) (compress s (bytes.take 64))

/-- The message, a `1` bit, zeros up to the last eight bytes of a block, and the length in bits. -/
def pad (message : List UInt8) : List UInt8 :=
  let zeros := (119 - message.length % 64) % 64
  message ++ 0x80 :: (List.replicate zeros 0 ++ Bytes.bigEndian 8 (8 * message.length))

def digest (message : List UInt8) : List UInt8 :=
  let padded := pad message
  (compressAll (padded.length / 64) padded start).toList.flatMap fun w =>
    Bytes.bigEndian 4 w.toNat

end SlotConsensus.Sha256
