import Std.Data.ExtTreeMap
import SlotConsensus.Block.Signed
import SlotConsensus.Error

/-! Trackers: the proposed blocks that wait for endorsements, each under the hash of its header and
with the identities that have endorsed it.  A proposer endorses its own block by proposing it, and
nobody endorses a block twice. -/

namespace SlotConsensus

/-- A way to find the identity behind a signature over a hash. -/
abbrev Recovery := Signature → Hash → Except KeyError PublicKey

/-- A proposed block, its proposer, and the others who endorsed it in the order in which they
did. -/
structure Proposal where
  block : SignedBlock
  proposer : PublicKey
  others : List PublicKey
  deriving DecidableEq

namespace Proposal

/-- Everybody who endorsed the block, the proposer first. -/
def endorsers (p : Proposal) : List PublicKey := p.proposer :: p.others

def hasEndorsed (p : Proposal) (k : PublicKey) : Bool := k ∈ p.endorsers

end Proposal

/-- The pending proposals of a node that finds signers by `recovery`. -/
structure Tracker (recovery : Recovery) where
  pending : Std.ExtTreeMap Hash Proposal

namespace Tracker

variable {recovery : Recovery}

def empty : Tracker recovery := ⟨∅⟩

def size (t : Tracker recovery) : Nat := t.pending.size

def isEmpty (t : Tracker recovery) : Bool := t.pending.isEmpty

/-- The proposal with the given hash. -/
def find (t : Tracker recovery) (h : Hash) : Except ConsensusError Proposal :=
  match t.pending[h]? with
  | some p => .ok p
  | none => .error (.unknownProposal h)

/-! ### Changes -/

/-- Starts to track a block whose body belongs to its header and whose signer can be found, and
gives the hash that it is tracked under. -/
def submit (t : Tracker recovery) (b : SignedBlock) :
    Except ConsensusError (Hash × Tracker recovery) :=
  if !b.block.bodyMatches then .error (.invalidBlock "body does not match header body hash")
  else if b.hash ∈ t.pending then .error (.duplicateBlock b.hash)
  else
    match recovery b.signature b.hash with
    | .ok proposer => .ok (b.hash, ⟨t.pending.insert b.hash ⟨b, proposer, []⟩⟩)
    | .error cause => .error (.unknownSigner cause.message)

/-- Adds an endorsement of a pending block. -/
def endorse (t : Tracker recovery) (h : Hash) (k : PublicKey) :
    Except ConsensusError (Tracker recovery) := do
  let p ← t.find h
  if p.hasEndorsed k then throw (.duplicateEndorsement h k)
  return ⟨t.pending.insert h { p with others := p.others ++ [k] }⟩

/-- Stops tracking a block. -/
def remove (t : Tracker recovery) (h : Hash) :
    Except ConsensusError (Proposal × Tracker recovery) := do
  let p ← t.find h
  return (p, ⟨t.pending.erase h⟩)

/-! ### Questions -/

/-- How many endorsed a pending block. -/
def endorserCount (t : Tracker recovery) (h : Hash) : Except ConsensusError Nat := do
  return (← t.find h).endorsers.length

/-- Accepts an identity that has endorsed a pending block. -/
def checkEndorsed (t : Tracker recovery) (h : Hash) (k : PublicKey) :
    Except ConsensusError Unit := do
  let p ← t.find h
  if !p.hasEndorsed k then throw (.notEndorsed h k)

def block (t : Tracker recovery) (h : Hash) : Except ConsensusError SignedBlock := do
  return (← t.find h).block

def endorsers (t : Tracker recovery) (h : Hash) : Except ConsensusError (List PublicKey) := do
  return (← t.find h).endorsers

/-- The hashes of all pending blocks in ascending order. -/
def waiting (t : Tracker recovery) : List Hash := t.pending.keys

end Tracker

end SlotConsensus
