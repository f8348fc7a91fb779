import SlotConsensus.Checked

/-! The number of endorsements that make a block final. -/

namespace SlotConsensus

/-- One more than two thirds of the validators, rounded down. -/
def quorumSize (validators : UInt64) : Except Overflow UInt64 := do
  let twice ← Checked.mul validators 2
  return twice / 3 + 1

end SlotConsensus
