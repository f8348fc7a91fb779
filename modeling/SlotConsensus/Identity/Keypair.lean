import SlotConsensus.Identity.Signature

/-! Secret keys with the identities that belong to them, and what a node needs to know of a way to
sign: a scheme's keys, their identities, and how signatures are made and traced back.  A scheme for
compact signatures makes one for signatures. -/

namespace SlotConsensus

/-- A secret multiplier and the point that it makes of the base point. -/
structure Keypair where
  secret : Curve.Scalar
  point : Curve.Point
  point_eq : (Curve.Projective.multiple secret (.ofPoint .base)).toPoint? = some point

namespace Keypair

/-- The pair of the secret key of 32 bytes, which stand for a number from 1 up to the order. -/
def ofSecret (bytes : List UInt8) : Except KeyError Keypair :=
  match Octets.ofList? 32 bytes, Curve.scalar? bytes with
  | some _, some secret =>
    match h : (Curve.Projective.multiple secret (.ofPoint .base)).toPoint? with
    | some point => .ok ⟨secret, point, h⟩
    | none => .error .malformedSecret
  | _, _ => .error .malformedSecret

def publicKey (k : Keypair) : PublicKey := .ofPoint k.point

def signCompact (k : Keypair) (hash : Hash) : CompactSignature :=
  match Curve.Recoverable.sign? k.secret hash.bytes.toList with
  | some sig => .ofRecoverable sig
  | none => ⟨Octets.fill 64 0, ⟨0, by decide⟩⟩

def sign (k : Keypair) (hash : Hash) : Signature := .ofCompact (k.signCompact hash)

/-- The pair under the name of its type, without the secret. -/
def describe (k : Keypair) : String :=
  "Keypair \x7b public: " ++ k.publicKey.describe ++ ", .. \x7d"

end Keypair

/-- A way to sign hashes in the compact form such that the signer can be recovered from hash and
signature. -/
structure CompactScheme where
  Key : Type
  publicKey : Key → PublicKey
  sign : Key → Hash → CompactSignature
  signer : CompactSignature → Hash → Except KeyError PublicKey

/-- Compact signatures on the curve secp256k1. -/
def CompactScheme.secp256k1 : CompactScheme where
  Key := Keypair
  publicKey := Keypair.publicKey
  sign := Keypair.signCompact
  signer := CompactSignature.signer

/-- A way to sign hashes such that the signer can be recovered from hash and signature. -/
structure SigningScheme where
  Key : Type
  publicKey : Key → PublicKey
  sign : Key → Hash → Signature
  signer : Signature → Hash → Except KeyError PublicKey

namespace SigningScheme

/-- The scheme that keeps its signatures apart into two numbers and a byte. -/
def ofCompact (c : CompactScheme) : SigningScheme where
  Key := c.Key
  publicKey := c.publicKey
  sign key hash := .ofCompact (c.sign key hash)
  signer sig hash := c.signer sig.toCompact hash

def secp256k1 : SigningScheme := ofCompact .secp256k1

end SigningScheme

end SlotConsensus
