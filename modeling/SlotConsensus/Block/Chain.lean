import SlotConsensus.Block.Basic

/-! Chains: blocks made one after the other, each on the head that the last one left. -/

namespace SlotConsensus

/-- What a block adds to its parent. -/
structure Entry where
  timestamp : Timestamp
  body : List UInt8
  fee : UInt64
  deriving DecidableEq

namespace Chain

/-- The outcome for each entry in order, from the given head on.  A block that is made is the next
head, and one that cannot be made leaves the head as it is. -/
def extend (head : Header) : List Entry → List (Except Overflow Block)
  | [] => []
  | e :: rest =>
    match Block.child head e.timestamp e.body e.fee with
    | .ok block => .ok block :: extend block.header rest
    | .error overflow => .error overflow :: extend head rest

end Chain

end SlotConsensus
