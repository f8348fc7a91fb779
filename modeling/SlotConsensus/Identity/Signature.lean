import SlotConsensus.Curve.Recoverable
import SlotConsensus.Hash
import SlotConsensus.Identity.PublicKey

/-! Signatures of 65 bytes, and the identity that made one.  They are made and traced back in a
compact form, where both numbers stand in one string of 64 bytes beside a recovery id from 0 to 3.
A signature made from the compact form gives that form back. -/

namespace SlotConsensus

/-- The low bit of the recovery id is the parity of a point's `y`, and the high bit says whether its
`x` exceeds the order. -/
structure CompactSignature where
  numbers : Octets 64
  recoveryId : Fin 4
  deriving DecidableEq

namespace CompactSignature

def ofRecoverable (sig : Curve.Recoverable) : CompactSignature where
  numbers := ⟨Bytes.bigEndian 32 sig.r.val ++ Bytes.bigEndian 32 sig.s.val, by simp⟩
  recoveryId := ⟨sig.odd.toNat + 2 * sig.wrapped.toNat, by
    cases sig.odd <;> cases sig.wrapped <;> decide⟩

def toRecoverable? (sig : CompactSignature) : Option Curve.Recoverable := do
  let r ← Curve.scalar? (sig.numbers.toList.take 32)
  let s ← Curve.scalar? (sig.numbers.toList.drop 32)
  some ⟨r, s, sig.recoveryId.val % 2 = 1, 2 ≤ sig.recoveryId.val⟩

/-- The identity that signed `hash`. -/
def signer (sig : CompactSignature) (hash : Hash) : Except KeyError PublicKey :=
  match sig.toRecoverable?.bind (·.signer? hash.bytes.toList) with
  | some p => .ok (.ofPoint p)
  | none => .error .malformedSignature

end CompactSignature

/-- Of `v` the two low bits count, which are the recovery id. -/
structure Signature where
  r : Octets 32
  s : Octets 32
  v : UInt8
  deriving DecidableEq

namespace Signature

def toBytes (sig : Signature) : List UInt8 := sig.r.toList ++ sig.s.toList ++ [sig.v]

def ofBytes (bytes : List UInt8) : Except KeyError Signature :=
  match Octets.ofList? 32 (bytes.take 32), Octets.ofList? 32 ((bytes.drop 32).take 32),
      bytes.drop 64 with
  | some r, some s, [v] => .ok ⟨r, s, v⟩
  | _, _, _ => .error .invalidSignature

theorem ofBytes_toBytes (sig : Signature) : ofBytes sig.toBytes = .ok sig := by
  have h1 : sig.toBytes.take 32 = sig.r.toList := by
    rw [toBytes, List.append_assoc, List.take_left' sig.r.length_eq]
  have h2 : (sig.toBytes.drop 32).take 32 = sig.s.toList := by
    rw [toBytes, List.append_assoc, List.drop_left' sig.r.length_eq,
      List.take_left' sig.s.length_eq]
  have h3 : sig.toBytes.drop 64 = [sig.v] := by
    rw [toBytes, List.drop_left' (by simp)]
  simp [ofBytes, h1, h2, h3]

/-! ### The compact form -/

def ofCompact (c : CompactSignature) : Signature where
  r := ⟨c.numbers.toList.take 32, by simp⟩
  s := ⟨c.numbers.toList.drop 32, by simp⟩
  v := c.recoveryId.val.toUInt8

def toCompact (sig : Signature) : CompactSignature where
  numbers := ⟨sig.r.toList ++ sig.s.toList, by simp⟩
  recoveryId := ⟨(sig.v &&& 3).toNat, by
    rw [UInt8.toNat_and]
    exact Nat.lt_succ_of_le Nat.and_le_right⟩

theorem toCompact_ofCompact (c : CompactSignature) : (ofCompact c).toCompact = c := by
  obtain ⟨numbers, id⟩ := c
  have hnumbers : numbers.toList.take 32 ++ numbers.toList.drop 32 = numbers.toList :=
    List.take_append_drop 32 _
  have hid : ∀ id : Fin 4, (id.val.toUInt8 &&& 3).toNat = id.val := by decide
  simp only [toCompact, ofCompact, hnumbers, hid]

def signer (sig : Signature) (hash : Hash) : Except KeyError PublicKey := sig.toCompact.signer hash

end Signature

end SlotConsensus
