import SlotConsensus.Bytes.Hex
import SlotConsensus.Digest.Keccak

/-! Hashes of 32 bytes, their hexadecimal form, and the hash of a byte string. -/

namespace SlotConsensus

structure Hash where
  bytes : Octets 32
  deriving DecidableEq

namespace Hash

theorem bytes_injective {a b : Hash} (h : a.bytes = b.bytes) : a = b := by
  cases a; cases b; cases h; rfl

/-- The hash whose bytes are all zero. -/
def zero : Hash := ⟨Octets.fill 32 0⟩

/-- The Keccak-256 digest of a byte string. -/
def keccak (data : List UInt8) : Hash := ⟨⟨Keccak.digest data, Keccak.length_digest data⟩⟩

/-- The 64 digits of a hash. -/
def toHex (h : Hash) : String := Hex.encode h.bytes.toList

/-- The hash with the 64 digits `text`, which may be of either case. -/
def ofHex (text : String) : Except Hex.Error Hash := (Hex.decodeExactly 32 text).map Hash.mk

instance : ToString Hash := ⟨fun h => "0x" ++ h.toHex⟩

/-- Hashes are ordered as their bytes are. -/
instance : Ord Hash := ⟨fun a b => compare a.bytes b.bytes⟩

instance : Std.TransOrd Hash where
  eq_swap {a b} := Std.OrientedOrd.eq_swap (a := a.bytes) (b := b.bytes)
  isLE_trans {a b c} := Std.TransOrd.isLE_trans (a := a.bytes) (b := b.bytes) (c := c.bytes)

instance : Std.LawfulEqOrd Hash where
  compare_self {a} := Std.ReflOrd.compare_self (a := a.bytes)
  eq_of_compare h := bytes_injective (Std.LawfulEqOrd.eq_of_compare h)

end Hash

end SlotConsensus
