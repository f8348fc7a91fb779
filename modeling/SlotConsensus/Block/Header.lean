import SlotConsensus.Bytes.Marked
import SlotConsensus.Hash

/-! Block headers, their byte form, and their hashes.  The byte form has the fields in the order of
the structure, numbers in their marked form and hashes as they are; a header can be read back off
the front of it. -/

namespace SlotConsensus

/-- A time in seconds. -/
abbrev Timestamp := UInt64

/-- The `timestamp` is the time of the slot that the block claims. -/
structure Header where
  version : UInt32
  parentHash : Hash
  number : UInt64
  timestamp : Timestamp
  bodyHash : Hash
  fee : UInt64
  deriving DecidableEq

namespace Header

/-- The version of the headers made here. -/
def currentVersion : UInt32 := 1

/-- The header that every chain starts with. -/
def genesis : Header where
  version := currentVersion
  parentHash := Hash.zero
  number := 0
  timestamp := 0
  bodyHash := Hash.keccak []
  fee := 0

def isGenesis (h : Header) : Bool := h.number = 0 ∧ h.parentHash = Hash.zero

/-! ### The byte form -/

def encode (h : Header) : List UInt8 :=
  Bytes.Marked.encode h.version.toNat ++ h.parentHash.bytes.toList ++
    Bytes.Marked.encode h.number.toNat ++ Bytes.Marked.encode h.timestamp.toNat ++
    h.bodyHash.bytes.toList ++ Bytes.Marked.encode h.fee.toNat

/-- The hash at the front, and the bytes after it. -/
def takeHash? (bytes : List UInt8) : Option (Hash × List UInt8) :=
  (Octets.ofList? 32 (bytes.take 32)).map fun o => (⟨o⟩, bytes.drop 32)

/-- The header at the front, and the bytes after it. -/
def decode? (bytes : List UInt8) : Option (Header × List UInt8) := do
  let (version, bytes) ← Bytes.Marked.decode? bytes
  let (parentHash, bytes) ← takeHash? bytes
  let (number, bytes) ← Bytes.Marked.decode? bytes
  let (timestamp, bytes) ← Bytes.Marked.decode? bytes
  let (bodyHash, bytes) ← takeHash? bytes
  let (fee, bytes) ← Bytes.Marked.decode? bytes
  some (⟨version.toUInt32, parentHash, number.toUInt64, timestamp.toUInt64, bodyHash,
    fee.toUInt64⟩, bytes)

theorem takeHash?_append (h : Hash) (rest : List UInt8) :
    takeHash? (h.bytes.toList ++ rest) = some (h, rest) := by
  rw [takeHash?, List.take_left' h.bytes.length_eq, List.drop_left' h.bytes.length_eq,
    Octets.ofList?_toList]
  rfl

theorem decode?_encode (h : Header) (rest : List UInt8) :
    decode? (h.encode ++ rest) = some (h, rest) := by
  have hv : h.version.toNat ≤ 0xffffffffffffffff :=
    Nat.le_trans (Nat.le_of_lt h.version.toNat_lt) (by decide)
  simp [decode?, encode, takeHash?_append, Bytes.Marked.decode?_encode hv,
    Bytes.Marked.decode?_encode (Nat.le_of_lt_succ h.number.toNat_lt),
    Bytes.Marked.decode?_encode (Nat.le_of_lt_succ h.timestamp.toNat_lt),
    Bytes.Marked.decode?_encode (Nat.le_of_lt_succ h.fee.toNat_lt)]

/-- The digest of the byte form, which names the block. -/
def hash (h : Header) : Hash := Hash.keccak h.encode

end Header

end SlotConsensus
