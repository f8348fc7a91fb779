import SlotConsensus.Block.Form
import SlotConsensus.Proofs.Json.Record

/-! Hashes, signatures and blocks as JSON texts.  The form of each of them loses nothing, so what is
received as a text is what was sent, with its hash and its signer. -/

namespace SlotConsensus

open Json

theorem Hash.lossless_form : Hash.form.Lossless := (Form.lossless_octets 32).convert fun _ => rfl

theorem Signature.lossless_form : Signature.form.Lossless :=
  Form.lossless_record "Signature"
    (.cons (by decide) (Form.lossless_octets 32) <| .cons (by decide) (Form.lossless_octets 32) <|
      .cons (by decide) Form.lossless_byte .nil)
    fun _ => rfl

theorem Header.lossless_form : Header.form.Lossless :=
  Form.lossless_record "BlockHeader"
    (.cons (by decide) Form.lossless_word32 <| .cons (by decide) Hash.lossless_form <|
      .cons (by decide) Form.lossless_word64 <| .cons (by decide) Form.lossless_word64 <|
      .cons (by decide) Hash.lossless_form <| .cons (by decide) Form.lossless_word64 .nil)
    fun _ => rfl

theorem Block.lossless_form : Block.form.Lossless :=
  Form.lossless_record "Block"
    (.cons (by decide) Header.lossless_form <|
      .cons (by decide) (Form.lossless_list Form.lossless_byte) .nil)
    fun _ => rfl

theorem SignedBlock.lossless_form : SignedBlock.form.Lossless :=
  Form.lossless_record "SignedBlock"
    (.cons (by decide) Block.lossless_form <| .cons (by decide) Signature.lossless_form .nil)
    fun _ => rfl

/-- Every hash, signature, header, block and signed block is restored from its text.  The signed
block that is received has the header hash of the one that was sent, its body matches if that one's
does, and its signature leads back to the same identity under every scheme. -/
theorem SignedBlock.texts_lose_nothing (layout : Layout) :
    Hash.form.Restores layout ∧ Signature.form.Restores layout ∧ Header.form.Restores layout ∧
      Block.form.Restores layout ∧ SignedBlock.form.Restores layout ∧
      ∀ (scheme : SigningScheme) (sent : SignedBlock), ∃ received,
        SignedBlock.form.parse (SignedBlock.form.print layout sent) = .ok received ∧
          received.block.header.hash = sent.block.header.hash ∧
          received.block.bodyMatches = sent.block.bodyMatches ∧
          received.signer scheme = sent.signer scheme := by
  refine ⟨Hash.lossless_form.restores layout, Signature.lossless_form.restores layout,
    Header.lossless_form.restores layout, Block.lossless_form.restores layout,
    SignedBlock.lossless_form.restores layout, ?_⟩
  intro scheme sent
  have hparse := SignedBlock.lossless_form.parse_print layout sent
  exact ⟨sent, hparse, rfl, rfl, rfl⟩

end SlotConsensus
