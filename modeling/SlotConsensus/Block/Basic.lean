import SlotConsensus.Block.Header
import SlotConsensus.Checked

/-! Blocks: a header and a body of bytes, of which the header holds the digest. -/

namespace SlotConsensus

structure Block where
  header : Header
  body : List UInt8
  deriving DecidableEq

namespace Block

/-- The block that every chain starts with. -/
def genesis : Block := ⟨Header.genesis, []⟩

/-- The hash of the header. -/
def hash (b : Block) : Hash := b.header.hash

/-- The header holds the digest of the body. -/
def bodyMatches (b : Block) : Bool := Hash.keccak b.body = b.header.bodyHash

def isGenesis (b : Block) : Bool := b.header.isGenesis

/-- The block that follows `parent` in the slot at `timestamp`, if there is a number left for
it. -/
def child (parent : Header) (timestamp : Timestamp) (body : List UInt8) (fee : UInt64) :
    Except Overflow Block := do
  let number ← Checked.add parent.number 1
  return {
    header := {
      version := Header.currentVersion
      parentHash := parent.hash
      number, timestamp
      bodyHash := Hash.keccak body
      fee }
    body }

theorem child_of_lt {parent : Header} (h : parent.number.toNat < 0xffffffffffffffff)
    (timestamp : Timestamp) (body : List UInt8) (fee : UInt64) :
    child parent timestamp body fee = .ok {
      header := {
        version := Header.currentVersion
        parentHash := parent.hash
        number := parent.number + 1
        timestamp
        bodyHash := Hash.keccak body
        fee }
      body } := by
  have hsum : parent.number.toNat + (1 : UInt64).toNat ≤ 0xffffffffffffffff := h
  rw [child, Checked.add, if_pos hsum]
  rfl

/-- The header with the last number of all has no child. -/
theorem child_of_last {parent : Header} (h : parent.number.toNat = 0xffffffffffffffff)
    (timestamp : Timestamp) (body : List UInt8) (fee : UInt64) :
    child parent timestamp body fee = .error .sum := by
  have hsum : ¬parent.number.toNat + (1 : UInt64).toNat ≤ 0xffffffffffffffff := by
    rw [h]
    decide
  rw [child, Checked.add, if_neg hsum]
  rfl

end Block

end SlotConsensus
