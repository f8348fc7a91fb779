/-! Sums and products of 64-bit numbers that are refused when they do not fit in 64 bits. -/

namespace SlotConsensus

inductive Overflow
  | sum
  | product
  deriving DecidableEq

namespace Overflow

def message : Overflow → String
  | sum => "attempt to add with overflow"
  | product => "attempt to multiply with overflow"

end Overflow

namespace Checked

def add (a b : UInt64) : Except Overflow UInt64 :=
  if a.toNat + b.toNat ≤ 0xffffffffffffffff then .ok (a + b) else .error .sum

def mul (a b : UInt64) : Except Overflow UInt64 :=
  if a.toNat * b.toNat ≤ 0xffffffffffffffff then .ok (a * b) else .error .product

theorem add_eq_ok_iff {a b c : UInt64} : add a b = .ok c ↔ c.toNat = a.toNat + b.toNat := by
  have hc := c.toNat_lt
  unfold add
  split
  · rename_i h
    simp only [Except.ok.injEq, ← UInt64.toNat_inj, UInt64.toNat_add,
      Nat.mod_eq_of_lt (Nat.lt_succ_of_le h)]
    exact eq_comm
  · simp only [reduceCtorEq, false_iff]
    omega

theorem mul_eq_ok_iff {a b c : UInt64} : mul a b = .ok c ↔ c.toNat = a.toNat * b.toNat := by
  have hc := c.toNat_lt
  unfold mul
  split
  · rename_i h
    simp only [Except.ok.injEq, ← UInt64.toNat_inj, UInt64.toNat_mul,
      Nat.mod_eq_of_lt (Nat.lt_succ_of_le h)]
    exact eq_comm
  · simp only [reduceCtorEq, false_iff]
    omega

theorem mul_eq_error_iff {a b : UInt64} {e : Overflow} :
    mul a b = .error e ↔ 0xffffffffffffffff < a.toNat * b.toNat ∧ e = .product := by
  unfold mul
  split
  · rename_i h
    simp only [reduceCtorEq, false_iff]
    omega
  · rename_i h
    simp only [Except.error.injEq, Nat.not_le.mp h, true_and]
    exact eq_comm

end Checked

end SlotConsensus
