import SlotConsensus.Block.Signed
import SlotConsensus.Json.Record

/-! The JSON forms of hashes, signatures and blocks.  Byte strings are lists of numbers. -/

namespace SlotConsensus

open Json

def Hash.form : Form Hash := (Form.octets 32).convert Hash.mk Hash.bytes

def Signature.form : Form Signature :=
  Form.record "Signature"
    (.cons "r" (Form.octets 32) <| .cons "s" (Form.octets 32) <| .cons "v" Form.byte .nil)
    (fun (r, s, v, _) => ⟨r, s, v⟩)
    (fun sig => (sig.r, sig.s, sig.v, ()))

def Header.form : Form Header :=
  Form.record "BlockHeader"
    (.cons "version" Form.word32 <| .cons "parent_hash" Hash.form <|
      .cons "number" Form.word64 <| .cons "timestamp" Form.word64 <|
      .cons "body_hash" Hash.form <| .cons "fee" Form.word64 .nil)
    (fun (version, parentHash, number, timestamp, bodyHash, fee, _) =>
      ⟨version, parentHash, number, timestamp, bodyHash, fee⟩)
    (fun h => (h.version, h.parentHash, h.number, h.timestamp, h.bodyHash, h.fee, ()))

def Block.form : Form Block :=
  Form.record "Block" (.cons "header" Header.form <| .cons "body" Form.byte.list .nil)
    (fun (header, body, _) => ⟨header, body⟩)
    (fun b => (b.header, b.body, ()))

def SignedBlock.form : Form SignedBlock :=
  Form.record "SignedBlock"
    (.cons "block" Block.form <| .cons "signature" Signature.form .nil)
    (fun (block, signature, _) => ⟨block, signature⟩)
    (fun b => (b.block, b.signature, ()))

end SlotConsensus
