import SlotConsensus.Bytes.Hex

/-! What can be wrong with keys, signatures and encodings. -/

namespace SlotConsensus

inductive KeyError
  /-- The bytes do not have the length of a signature. -/
  | invalidSignature
  | invalidPublicKey (reason : String)
  /-- A secret key or a signature is no such thing. -/
  | crypto (reason : String)
  | hexDecode (cause : Hex.Error)
  | encoding (reason : String)
  deriving DecidableEq

namespace KeyError

def malformedSecret : KeyError := crypto "malformed or out-of-range secret key"

def malformedSignature : KeyError := crypto "malformed signature"

def message : KeyError → String
  | invalidSignature => "Invalid signature"
  | invalidPublicKey reason => "Invalid public key: " ++ reason
  | crypto reason => "Crypto error: " ++ reason
  | hexDecode cause => "Hex decode error: " ++ cause.message
  | encoding reason => "Bincode error: " ++ reason

end KeyError

end SlotConsensus
