import SlotConsensus.Block.Basic
import SlotConsensus.Proofs.Block.Layout

/-! What the hash of a block commits to.  A header can be read back off its byte form, so two
headers with one hash are equal or their byte forms are two byte strings with one digest.  The same
goes for the bodies of blocks with one header, as the header holds the digest of the body. -/

namespace SlotConsensus

namespace Hash

/-- Two different byte strings have one digest. -/
def Collide (a b : List UInt8) : Prop := a ≠ b ∧ keccak a = keccak b

theorem eq_or_collide {a b : List UInt8} (h : keccak a = keccak b) : a = b ∨ Collide a b := by
  by_cases hab : a = b
  · exact Or.inl hab
  · exact Or.inr ⟨hab, h⟩

end Hash

theorem Header.eq_or_collide {a b : Header} (h : a.hash = b.hash) :
    a = b ∨ Hash.Collide a.encode b.encode := by
  rcases Hash.eq_or_collide h with hencode | hcollide
  · exact Or.inl (Header.encode_inj.mp hencode)
  · exact Or.inr hcollide

namespace Block

theorem bodyMatches_iff {b : Block} :
    b.bodyMatches = true ↔ Hash.keccak b.body = b.header.bodyHash := decide_eq_true_iff

section Bodies

variable {a b : Block} (ha : a.bodyMatches = true) (hb : b.bodyMatches = true)
include ha hb

theorem eq_or_collide_of_header (h : a.header = b.header) :
    a = b ∨ Hash.Collide a.body b.body := by
  have hdigest : Hash.keccak a.body = Hash.keccak b.body := by
    rw [bodyMatches_iff.mp ha, bodyMatches_iff.mp hb, h]
  rcases Hash.eq_or_collide hdigest with hbody | hcollide
  · left
    obtain ⟨header, body⟩ := a
    cases h
    cases hbody
    rfl
  · exact Or.inr hcollide

/-- Two blocks with one hash, each with the body that its header commits to, are equal unless their
headers or their bodies collide. -/
theorem eq_or_collide (h : a.hash = b.hash) :
    a = b ∨ Hash.Collide a.header.encode b.header.encode ∨ Hash.Collide a.body b.body := by
  rcases Header.eq_or_collide h with hheader | hcollide
  · exact (eq_or_collide_of_header ha hb hheader).imp_right Or.inr
  · exact Or.inr (Or.inl hcollide)

end Bodies

end Block

end SlotConsensus
