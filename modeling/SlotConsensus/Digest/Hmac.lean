import SlotConsensus.Digest.Sha256

/-! The keyed digest built from SHA-256. -/

namespace SlotConsensus.Hmac

/-- Each byte of a key of at most 64 bytes, padded with zeros to a block, with `mask` added. -/
def masked (mask : UInt8) (key : List UInt8) : List UInt8 :=
  (key ++ List.replicate (64 - key.length) 0).map (· ^^^ mask)

/-- The digest of a message under a key of at most 64 bytes. -/
def digest (key message : List UInt8) : List UInt8 :=
  Sha256.digest (masked 0x5c key ++ Sha256.digest (masked 0x36 key ++ message))

end SlotConsensus.Hmac
