import SlotConsensus.Bytes.Marked

/-! What the marked form of a number looks like, said without the function that writes it: each
size class has its own first byte and its own length, and holds the numbers that are too large for
the class before it.  A number of up to 64 bits has one such form and no other. -/

namespace SlotConsensus.Bytes

/-- A number has a string of `n` bytes if it is not too large for them, and one only. -/
theorem ofLittleEndian_eq_iff {n x : Nat} {l : List UInt8} :
    l.length = n ∧ ofLittleEndian l = x ↔ x < Nat.pow 256 n ∧ l = littleEndian n x := by
  constructor
  · rintro ⟨rfl, rfl⟩
    exact ⟨ofLittleEndian_lt l, (littleEndian_ofLittleEndian l).symm⟩
  · rintro ⟨hx, rfl⟩
    exact ⟨length_littleEndian n x,
      (ofLittleEndian_littleEndian n x).trans (Nat.mod_eq_of_lt hx)⟩

namespace Marked

/-- The bytes are a form of the number: the number itself as a byte, or a marker and as many bytes
as it announces, where fewer would not do. -/
inductive Spells : List UInt8 → Nat → Prop
  | one {b : UInt8} {x : Nat} : b.toNat = x → x ≤ 250 → Spells [b] x
  | two {l : List UInt8} {x : Nat} :
      l.length = 2 ∧ ofLittleEndian l = x → 250 < x → Spells (251 :: l) x
  | four {l : List UInt8} {x : Nat} :
      l.length = 4 ∧ ofLittleEndian l = x → 0xffff < x → Spells (252 :: l) x
  | eight {l : List UInt8} {x : Nat} :
      l.length = 8 ∧ ofLittleEndian l = x → 0xffffffff < x → Spells (253 :: l) x

theorem spells_encode {x : Nat} (hx : x ≤ 0xffffffffffffffff) : Spells (encode x) x := by
  by_cases h1 : x ≤ 250
  · have hb : x.toUInt8.toNat = x := by simp; omega
    rw [encode, if_pos h1]
    exact .one hb h1
  by_cases h2 : x ≤ 0xffff
  · rw [encode, if_neg h1, if_pos h2]
    exact .two (ofLittleEndian_eq_iff.mpr ⟨Nat.lt_succ_of_le h2, rfl⟩) (by omega)
  by_cases h4 : x ≤ 0xffffffff
  · rw [encode, if_neg h1, if_neg h2, if_pos h4]
    exact .four (ofLittleEndian_eq_iff.mpr ⟨Nat.lt_succ_of_le h4, rfl⟩) (by omega)
  · rw [encode, if_neg h1, if_neg h2, if_neg h4]
    exact .eight (ofLittleEndian_eq_iff.mpr ⟨Nat.lt_succ_of_le hx, rfl⟩) (by omega)

/-- A form's length bounds its number from above, so the classes do not overlap. -/
theorem Spells.eq_encode {l : List UInt8} {x : Nat} (h : Spells l x) : l = encode x := by
  cases h with
  | one hb hx =>
    subst hb
    rw [encode, if_pos hx]
    exact congrArg (fun b => [b]) UInt8.ofNat_toNat.symm
  | two hl hx =>
    obtain ⟨hlt, rfl⟩ := ofLittleEndian_eq_iff.mp hl
    have hle : x ≤ 0xffff := Nat.le_of_lt_succ hlt
    rw [encode, if_neg (by omega), if_pos hle]
  | four hl hx =>
    obtain ⟨hlt, rfl⟩ := ofLittleEndian_eq_iff.mp hl
    have hle : x ≤ 0xffffffff := Nat.le_of_lt_succ hlt
    rw [encode, if_neg (by omega), if_neg (by omega), if_pos hle]
  | eight hl hx =>
    obtain ⟨-, rfl⟩ := ofLittleEndian_eq_iff.mp hl
    rw [encode, if_neg (by omega), if_neg (by omega), if_neg (by omega)]

-- the first number that needs a marker is the marker itself
example : encode 250 = [250] ∧ encode 251 = [251, 251, 0] := by decide

end Marked

end SlotConsensus.Bytes
