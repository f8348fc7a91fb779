import SlotConsensus.Proofs.Block.Commitment
import SlotConsensus.Proofs.Tracker.Pending

/-! What a hash stands for in a tracker.  Only a block whose body belongs to its header is accepted
or called a duplicate, and the answer names the hash of its header, so all blocks that are answered
with one hash have the same content. -/

namespace SlotConsensus.Tracker

variable {recovery : Recovery}

/-- A submission is accepted or called a duplicate only when the body belongs to the header, and the
hash in the answer is that of the header. -/
theorem hash_of_submitted {t : Tracker recovery} {h : Hash} {b : SignedBlock}
    (ho : (t.step (.submit b)).1 = .ok (.tracked h) ∨
      (t.step (.submit b)).1 = .error (.duplicateBlock h)) :
    b.hash = h ∧ b.block.bodyMatches = true := by
  rcases t.step_submit_cases b with ⟨-, hstep⟩ | ⟨p, hb, -, hstep⟩ | ⟨cause, -, -, -, hstep⟩ |
    ⟨k, hb, -, -, hstep⟩
  · simp [hstep] at ho
  · exact ⟨by simpa [hstep] using ho, hb⟩
  · simp [hstep] at ho
  · exact ⟨by simpa [hstep] using ho, hb⟩

theorem named_of_mem_history {t : Tracker recovery} {calls : List Call} {h : Hash}
    {b : SignedBlock} (hb : ⟨.submit b, .ok (.tracked h)⟩ ∈ t.history calls ∨
      ⟨.submit b, .error (.duplicateBlock h)⟩ ∈ t.history calls) :
    b.hash = h ∧ b.block.bodyMatches = true := by
  rcases hb with haccepted | hduplicate
  · obtain ⟨before, after, -, ho⟩ := mem_history_iff.mp haccepted
    exact hash_of_submitted (Or.inl ho.symm)
  · obtain ⟨before, after, -, ho⟩ := mem_history_iff.mp hduplicate
    exact hash_of_submitted (Or.inr ho.symm)

/-- After any run, every pending block waits under the hash of its header and has the body that the
header holds the digest of.  A block that was accepted under a hash at some moment of the run, and
one that was accepted under the same hash or refused as its duplicate at any other, have the same
header and the same body, unless the byte forms of their headers or their bodies collide. -/
theorem hash_identifies_content (recovery : Recovery) (calls : List Call) :
    let t := ((empty : Tracker recovery).run calls).2
    let past := (empty : Tracker recovery).history calls
    (∀ h ∈ t.waiting, ∃ b, t.block h = .ok b ∧ b.block.header.hash = h ∧
      Hash.keccak b.block.body = b.block.header.bodyHash) ∧
    ∀ h a b, ⟨.submit a, .ok (.tracked h)⟩ ∈ past →
      ⟨.submit b, .ok (.tracked h)⟩ ∈ past ∨ ⟨.submit b, .error (.duplicateBlock h)⟩ ∈ past →
      a.block.header = b.block.header ∧ a.block.body = b.block.body ∨
        Hash.Collide a.block.header.encode b.block.header.encode ∨
        Hash.Collide a.block.body b.block.body := by
  intro t past
  refine ⟨?_, ?_⟩
  · intro h hwaiting
    obtain ⟨p, hpending⟩ := Option.isSome_iff_exists.mp (mem_waiting_iff.mp hwaiting)
    have hsound := sound_of_pending hpending
    exact ⟨p.block, (shows_of_some hpending).block, hsound.hash,
      Block.bodyMatches_iff.mp hsound.body⟩
  · intro h a b ha hb
    obtain ⟨hahash, habody⟩ := named_of_mem_history (Or.inl ha)
    obtain ⟨hbhash, hbbody⟩ := named_of_mem_history hb
    rcases Block.eq_or_collide habody hbbody (hahash.trans hbhash.symm) with heq | hcollide
    · exact Or.inl ⟨congrArg Block.header heq, congrArg Block.body heq⟩
    · exact Or.inr hcollide

end SlotConsensus.Tracker
