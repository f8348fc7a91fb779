import SlotConsensus.Block.Basic
import SlotConsensus.Identity.Keypair

/-! Blocks with a signature over the hash of their header.  The signature is no part of the hash. -/

namespace SlotConsensus

structure SignedBlock where
  block : Block
  signature : Signature
  deriving DecidableEq

namespace SignedBlock

/-- The block with its producer's signature. -/
def sign (scheme : SigningScheme) (block : Block) (key : scheme.Key) : SignedBlock :=
  ⟨block, scheme.sign key block.hash⟩

def hash (b : SignedBlock) : Hash := b.block.hash

def timestamp (b : SignedBlock) : Timestamp := b.block.header.timestamp

/-- The identity that the signature leads back to. -/
def signer (scheme : SigningScheme) (b : SignedBlock) : Except KeyError PublicKey :=
  scheme.signer b.signature b.block.header.hash

end SignedBlock

end SlotConsensus
