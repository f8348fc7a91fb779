/-! Numbers as byte strings, least or most significant byte first.  Writing a number that fits in
`n` bytes and reading it back gives the number. -/

namespace SlotConsensus.Bytes

/-- The `n` low bytes of `x`, least significant first. -/
def littleEndian : Nat → Nat → List UInt8
  | 0, _ => []
  | n + 1, x => x.toUInt8 :: littleEndian n (x / 256)

/-- The number whose bytes, least significant first, are given. -/
def ofLittleEndian : List UInt8 → Nat
  | [] => 0
  | b :: r => b.toNat + 256 * ofLittleEndian r

/-- The `n` low bytes of `x`, most significant first. -/
def bigEndian (n x : Nat) : List UInt8 := (littleEndian n x).reverse

/-- The number whose bytes, most significant first, are given. -/
def ofBigEndian (l : List UInt8) : Nat := ofLittleEndian l.reverse

@[simp] theorem length_littleEndian (n x : Nat) : (littleEndian n x).length = n := by
  induction n generalizing x with
  | zero => rfl
  | succ n ih => simp [littleEndian, ih]

@[simp] theorem length_bigEndian (n x : Nat) : (bigEndian n x).length = n := by
  simp [bigEndian]

theorem ofLittleEndian_littleEndian (n x : Nat) :
    ofLittleEndian (littleEndian n x) = x % Nat.pow 256 n := by
  induction n generalizing x with
  | zero => simp [littleEndian, ofLittleEndian, Nat.mod_one]
  | succ n ih =>
    have hb : x.toUInt8.toNat = x % 256 := by simp
    simp only [littleEndian, ofLittleEndian, ih, hb]
    rw [show Nat.pow 256 (n + 1) = 256 * Nat.pow 256 n from Nat.mul_comm _ _, Nat.mod_mul]

theorem ofLittleEndian_lt (l : List UInt8) : ofLittleEndian l < Nat.pow 256 l.length := by
  induction l with
  | nil => simp [ofLittleEndian]
  | cons b r ih =>
    have := b.toNat_lt
    rw [ofLittleEndian, List.length_cons,
      show Nat.pow 256 (r.length + 1) = Nat.pow 256 r.length * 256 from rfl]
    omega

theorem littleEndian_ofLittleEndian (l : List UInt8) :
    littleEndian l.length (ofLittleEndian l) = l := by
  induction l with
  | nil => rfl
  | cons b r ih =>
    have hb := b.toNat_lt
    have hd : (b.toNat + 256 * ofLittleEndian r) / 256 = ofLittleEndian r := by omega
    simp only [List.length_cons, littleEndian, ofLittleEndian, hd, ih]
    congr 1
    apply UInt8.toNat_inj.1
    simp

theorem ofBigEndian_bigEndian (n x : Nat) : ofBigEndian (bigEndian n x) = x % Nat.pow 256 n := by
  simp [ofBigEndian, bigEndian, ofLittleEndian_littleEndian]

theorem bigEndian_ofBigEndian (l : List UInt8) : bigEndian l.length (ofBigEndian l) = l := by
  have := littleEndian_ofLittleEndian l.reverse
  rw [List.length_reverse] at this
  simp [bigEndian, ofBigEndian, this]

end SlotConsensus.Bytes
