import SlotConsensus.Block.Header
import SlotConsensus.Proofs.Bytes.Marked

/-! The bytes of a header, which are what its hash is the digest of.  A header has one byte form,
with its fields in order, and where that form stands in front of other bytes, both the header and
the place where it ends can be told. -/

namespace SlotConsensus.Header

/-- The bytes are those of the six fields, one after the other: the numbers in a form that spells
them, and the hashes as they are. -/
inductive Spells : List UInt8 → Header → Prop
  | fields {h : Header} {version number timestamp fee : List UInt8} :
      Bytes.Marked.Spells version h.version.toNat → Bytes.Marked.Spells number h.number.toNat →
      Bytes.Marked.Spells timestamp h.timestamp.toNat → Bytes.Marked.Spells fee h.fee.toNat →
      Spells (version ++ h.parentHash.bytes.toList ++ number ++ timestamp ++
        h.bodyHash.bytes.toList ++ fee) h

theorem spells_iff {bytes : List UInt8} {h : Header} : Spells bytes h ↔ bytes = h.encode := by
  constructor
  · intro hs
    cases hs with
    | fields hversion hnumber htimestamp hfee =>
      rw [hversion.eq_encode, hnumber.eq_encode, htimestamp.eq_encode, hfee.eq_encode, encode]
  · rintro rfl
    have hversion : h.version.toNat ≤ 0xffffffffffffffff :=
      Nat.le_trans (Nat.le_of_lt h.version.toNat_lt) (by decide)
    exact .fields (Bytes.Marked.spells_encode hversion)
      (Bytes.Marked.spells_encode (Nat.le_of_lt_succ h.number.toNat_lt))
      (Bytes.Marked.spells_encode (Nat.le_of_lt_succ h.timestamp.toNat_lt))
      (Bytes.Marked.spells_encode (Nat.le_of_lt_succ h.fee.toNat_lt))

/-- Reading the front of one byte string can find one header only. -/
theorem encode_append_eq_iff {a b : Header} {r s : List UInt8} :
    a.encode ++ r = b.encode ++ s ↔ a = b ∧ r = s := by
  constructor
  · intro h
    have hread : some (a, r) = some (b, s) := by
      rw [← decode?_encode a r, h, decode?_encode b s]
    cases hread
    exact ⟨rfl, rfl⟩
  · rintro ⟨rfl, rfl⟩
    rfl

theorem encode_inj {a b : Header} : a.encode = b.encode ↔ a = b := by
  simpa using encode_append_eq_iff (r := []) (s := [])

theorem encode_isPrefix_iff {a b : Header} : a.encode <+: b.encode ↔ a = b := by
  constructor
  · rintro ⟨rest, h⟩
    rw [← List.append_nil b.encode] at h
    exact (encode_append_eq_iff.mp h).1
  · rintro rfl
    exact List.prefix_rfl

/-- The hash of a header is the digest of its one byte form, which can be read off the front of any
bytes.  Two such forms with bytes behind them are equal only if the headers are equal and the bytes
behind them too, so the form tells all six fields, and none is the beginning of another. -/
theorem hashed_bytes_decode_uniquely :
    (∀ (h : Header) (bytes : List UInt8), Spells bytes h ↔ bytes = h.encode) ∧
    (∀ h : Header, h.hash = Hash.keccak h.encode) ∧
    (∀ (h : Header) (r : List UInt8), decode? (h.encode ++ r) = some (h, r)) ∧
    (∀ (a b : Header) (r s : List UInt8), a.encode ++ r = b.encode ++ s ↔ a = b ∧ r = s) ∧
    (∀ a b : Header, a.encode = b.encode ↔
      a.version = b.version ∧ a.parentHash = b.parentHash ∧ a.number = b.number ∧
        a.timestamp = b.timestamp ∧ a.bodyHash = b.bodyHash ∧ a.fee = b.fee) ∧
    ∀ a b : Header, a.encode <+: b.encode ↔ a = b := by
  refine ⟨fun _ _ => spells_iff, fun _ => rfl, decode?_encode, fun _ _ _ _ => encode_append_eq_iff,
    ?_, fun _ _ => encode_isPrefix_iff⟩
  intro a b
  rw [encode_inj, Header.mk.injEq]

end SlotConsensus.Header
