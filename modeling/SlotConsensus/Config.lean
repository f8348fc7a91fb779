import SlotConsensus.Quorum
import SlotConsensus.Schedule

/-! Configurations: the timing of slots and epochs, the largest size of the roster, and the texts
of the trusted keys in the order of their turns. -/

namespace SlotConsensus

structure Config where
  interval : UInt64
  epochLength : UInt64
  maxValidators : UInt64
  trustNodes : List String
  deriving DecidableEq

namespace Config

/-- The standard schedule and up to 21 validators, of whom none is known. -/
def standard : Config where
  interval := Schedule.standard.interval
  epochLength := Schedule.standard.epochLength
  maxValidators := 21
  trustNodes := []

def schedule (c : Config) : Except ConsensusError Schedule :=
  Schedule.ofLengths c.interval c.epochLength

/-- The keys of the texts, of which the first stands at `index`. -/
def decodeNodes (index : Nat) : List String → Except ConsensusError (List PublicKey)
  | [] => .ok []
  | text :: rest =>
    match PublicKey.ofHex text with
    | .ok key => (decodeNodes (index + 1) rest).map (key :: ·)
    | .error cause => .error (.config (.badNode index cause))

/-- The trusted keys, or the first text that is none. -/
def validators (c : Config) : Except ConsensusError (List PublicKey) :=
  decodeNodes 0 c.trustNodes

/-- Accepts a configuration from which a node can be made. -/
def validate (c : Config) : Except ConsensusError Unit := do
  let _ ← c.schedule
  if c.maxValidators = 0 then throw (.config .noValidators)
  if c.maxValidators.toNat < c.trustNodes.length then
    throw (.config (.tooManyNodes c.trustNodes.length c.maxValidators))
  let _ ← c.validators
  return ()

/-- The quorum of a roster of the largest size. -/
def safeSize (c : Config) : Except Overflow UInt64 := quorumSize c.maxValidators

end Config

end SlotConsensus
