import SlotConsensus.Bytes.Endian

/-! Numbers of up to 64 bits in as few bytes as their size class needs.  A number up to 250 is one
byte; a larger one is a marker and then 2, 4 or 8 bytes, least significant first.  A written
number can be read back off the front of any bytes that follow it. -/

namespace SlotConsensus.Bytes.Marked

def encode (x : Nat) : List UInt8 :=
  if x ≤ 250 then [x.toUInt8]
  else if x ≤ 0xffff then 251 :: littleEndian 2 x
  else if x ≤ 0xffffffff then 252 :: littleEndian 4 x
  else 253 :: littleEndian 8 x

/-- The number of `size` bytes at the front, and the bytes after it. -/
def takeNumber? (size : Nat) (bytes : List UInt8) : Option (Nat × List UInt8) :=
  if size ≤ bytes.length then some (ofLittleEndian (bytes.take size), bytes.drop size) else none

/-- The number at the front, and the bytes after it. -/
def decode? : List UInt8 → Option (Nat × List UInt8)
  | [] => none
  | b :: rest =>
    if b ≤ 250 then some (b.toNat, rest)
    else if b = 251 then takeNumber? 2 rest
    else if b = 252 then takeNumber? 4 rest
    else if b = 253 then takeNumber? 8 rest
    else none

theorem takeNumber?_littleEndian (size : Nat) {x : Nat} (h : x < Nat.pow 256 size)
    (rest : List UInt8) :
    takeNumber? size (littleEndian size x ++ rest) = some (x, rest) := by
  have hx : ofLittleEndian (littleEndian size x) = x :=
    (ofLittleEndian_littleEndian size x).trans (Nat.mod_eq_of_lt h)
  simp [takeNumber?, hx]

theorem decode?_encode {x : Nat} (h : x ≤ 0xffffffffffffffff) (rest : List UInt8) :
    decode? (encode x ++ rest) = some (x, rest) := by
  unfold encode
  split
  · rename_i hx
    have hb : x.toUInt8.toNat = x := by simp; omega
    have hle : x.toUInt8 ≤ 250 := by rw [UInt8.le_iff_toNat_le, hb]; exact hx
    simp [decode?, hle, hb]
  · split
    · rename_i hx
      simpa [decode?] using takeNumber?_littleEndian 2 (Nat.lt_succ_of_le hx) rest
    · split
      · rename_i hx
        simpa [decode?] using takeNumber?_littleEndian 4 (Nat.lt_succ_of_le hx) rest
      · simpa [decode?] using takeNumber?_littleEndian 8 (Nat.lt_succ_of_le h) rest

end SlotConsensus.Bytes.Marked
