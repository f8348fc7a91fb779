import SlotConsensus.Bytes.Endian

/-! Keccak-256: the sponge over the permutation Keccak-f[1600] with a rate of 136 bytes and a
digest of 32 bytes.  The padding starts with the byte `0x01`, as in the first submission of the
function and not as in the standard that came after it. -/

namespace SlotConsensus.Keccak

/-- The 25 lanes; lane `(x, y)` is at position `x + 5 * y`. -/
abbrev State := Vector UInt64 25

/-- Lane `(x, y)`, with both coordinates taken modulo 5. -/
def State.lane (s : State) (x y : Nat) : UInt64 :=
  have : x % 5 + 5 * (y % 5) < 25 := by omega
  s[x % 5 + 5 * (y % 5)]

/-- The state whose lane `(x, y)` is `f x y`. -/
def State.ofLanes (f : Nat → Nat → UInt64) : State :=
  Vector.ofFn fun i => f (i.val % 5) (i.val / 5)

def rotateLeft (w : UInt64) (k : UInt64) : UInt64 := (w <<< k) ||| (w >>> (64 - k))

/-- The rotation of each lane, in the order of the positions. -/
def rotations : Vector UInt64 25 :=
  #v[0, 1, 62, 28, 27,
     36, 44, 6, 55, 20,
     3, 10, 43, 25, 39,
     41, 45, 15, 21, 8,
     18, 2, 61, 56, 14]

/-- The constant of each of the 24 rounds. -/
def roundConstants : List UInt64 :=
  [0x0000000000000001, 0x0000000000008082, 0x800000000000808a, 0x8000000080008000,
   0x000000000000808b, 0x0000000080000001, 0x8000000080008081, 0x8000000000008009,
   0x000000000000008a, 0x0000000000000088, 0x0000000080008009, 0x000000008000000a,
   0x000000008000808b, 0x800000000000008b, 0x8000000000008089, 0x8000000000008003,
   0x8000000000008002, 0x8000000000000080, 0x000000000000800a, 0x800000008000000a,
   0x8000000080008081, 0x8000000000008080, 0x0000000080000001, 0x8000000080008008]

/-! ### The permutation -/

/-- Adds to each lane the parities of two neighbouring columns. -/
def theta (s : State) : State :=
  let parity : Vector UInt64 5 := Vector.ofFn fun x =>
    s.lane x 0 ^^^ s.lane x 1 ^^^ s.lane x 2 ^^^ s.lane x 3 ^^^ s.lane x 4
  let spread : Vector UInt64 5 := Vector.ofFn fun x =>
    parity[(x + 4) % 5] ^^^ rotateLeft parity[(x + 1) % 5] 1
  State.ofLanes fun x y => s.lane x y ^^^ spread[x % 5]

/-- Rotates each lane and moves lane `(x, y)` to `(y, 2 * x + 3 * y)`. -/
def rhoPi (s : State) : State :=
  State.ofLanes fun x y =>
    rotateLeft (s.lane (x + 3 * y) x) (State.lane rotations (x + 3 * y) x)

/-- Combines each lane with the next two of its row; the only step that is not linear. -/
def chi (s : State) : State :=
  State.ofLanes fun x y => s.lane x y ^^^ (~~~ s.lane (x + 1) y &&& s.lane (x + 2) y)

def iota (c : UInt64) (s : State) : State := s.set 0 (s[0] ^^^ c)

def permute (s : State) : State :=
  roundConstants.foldl (fun s c => iota c (chi (rhoPi (theta s)))) s

/-! ### The sponge -/

/-- Bytes of a block. -/
def rate : Nat := 136

/-- The message, a `1` bit, zeros, and a `1` bit that ends the last block. -/
def pad (message : List UInt8) : List UInt8 :=
  let gap := rate - message.length % rate
  if gap = 1 then message ++ [0x81]
  else message ++ 0x01 :: (List.replicate (gap - 2) 0 ++ [0x80])

/-- The first `count` pieces of `size` bytes each. -/
def pieces (size : Nat) : Nat → List UInt8 → List (List UInt8)
  | 0, _ => []
  | count + 1, l => l.take size :: pieces size count (l.drop size)

def absorb (s : State) (block : List UInt8) : State :=
  let words : Array UInt64 :=
    ((pieces 8 (rate / 8) block).map fun w => (Bytes.ofLittleEndian w).toUInt64).toArray
  permute (Vector.ofFn fun i => s[i] ^^^ words.getD i.val 0)

/-- The first four lanes, least significant byte first. -/
def squeeze (s : State) : List UInt8 :=
  [s[0], s[1], s[2], s[3]].flatMap fun w => Bytes.littleEndian 8 w.toNat

def digest (message : List UInt8) : List UInt8 :=
  let padded := pad message
  squeeze ((pieces rate (padded.length / rate) padded).foldl absorb (Vector.replicate 25 0))

theorem length_digest (message : List UInt8) : (digest message).length = 32 := by
  simp [digest, squeeze]

end SlotConsensus.Keccak
