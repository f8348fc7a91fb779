import SlotConsensus.Config

/-! Nodes: who a node is, whom it trusts, and by which schedule it decides who may produce the next
block.  The next block goes into the last slot before the present time, so it needs a producer who
leads that slot and a last block in an earlier one. -/

namespace SlotConsensus

structure Node where
  signer : PublicKey
  schedule : Schedule
  roster : Roster

namespace Node

/-- A node that trusts nobody yet. -/
def new (signer : PublicKey) (schedule : Schedule) : Node := ⟨signer, schedule, Roster.empty⟩

def setRoster (n : Node) (keys : List PublicKey) : Node := { n with roster := Roster.ofList keys }

def setSigner (n : Node) (signer : PublicKey) : Node := { n with signer }

/-- The node that a configuration describes. -/
def ofConfig (c : Config) (signer : PublicKey) : Except ConsensusError Node := do
  c.validate
  return (new signer (← c.schedule)).setRoster (← c.validators)

/-- Whether a block with the timestamp `last` leaves room for another one. -/
def checkDeadline (n : Node) (last now : Timestamp) : Except ConsensusError Unit :=
  n.schedule.checkDeadline last now

/-- The leader of the slot before `now`. -/
def leaderAt (n : Node) (now : Timestamp) : Except ConsensusError PublicKey :=
  n.schedule.leader (n.schedule.prevSlot now) n.roster

/-- Whether `producer` may follow up a block with the timestamp `last`. -/
def checkProducer (n : Node) (last now : Timestamp) (producer : PublicKey) :
    Except ConsensusError Unit := do
  n.checkDeadline last now
  let expected ← n.leaderAt now
  if expected ≠ producer then
    throw (.wrongProducer (n.schedule.prevSlot now) expected producer)

/-- Whether the node itself may follow up a block with the timestamp `last`. -/
def checkTurn (n : Node) (last now : Timestamp) : Except ConsensusError Unit :=
  n.checkProducer last now n.signer

end Node

end SlotConsensus
