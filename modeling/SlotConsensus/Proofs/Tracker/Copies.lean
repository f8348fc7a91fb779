import SlotConsensus.Proofs.Tracker.Effect

/-! Copies of a proposal.  The hash of a signed block is the hash of its header, so blocks that
differ in their bodies or signatures alone compete for one place in the tracker.  The place goes to
the first of them whose body belongs to the header and whose signature leads to anybody. -/

namespace SlotConsensus.Tracker

variable {recovery : Recovery}

/-- The call submits some block with the header, or endorses. -/
def Call.Copies (header : Header) : Call → Prop
  | .submit b => b.block.header = header
  | .endorse _ _ => True
  | _ => False

/-- The identity behind a submitted block, if its body belongs to its header and its signature leads
to anybody. -/
def Call.signer? (recovery : Recovery) : Call → Option PublicKey
  | .submit b =>
    if b.block.bodyMatches then (recovery b.signature b.hash).toOption else none
  | _ => none

theorem signer?_endorse (h : Hash) (k : PublicKey) :
    Call.signer? recovery (.endorse h k) = none := rfl

theorem signer?_eq_some_iff {c : Call} {k : PublicKey} :
    c.signer? recovery = some k ↔
      ∃ b, c = .submit b ∧ b.block.bodyMatches = true ∧ recovery b.signature b.hash = .ok k := by
  cases c with
  | submit b =>
    cases hk : recovery b.signature b.hash <;> simp [Call.signer?, hk, Except.toOption]
  | _ => simp [Call.signer?]

/-- The first identity that the submitted blocks lead to. -/
def firstSigner? (recovery : Recovery) (calls : List Call) : Option PublicKey :=
  calls.findSome? (Call.signer? recovery)

theorem firstSigner?_cons (c : Call) (rest : List Call) :
    firstSigner? recovery (c :: rest) = (c.signer? recovery).or (firstSigner? recovery rest) := by
  rw [firstSigner?, firstSigner?, List.findSome?_cons]
  cases c.signer? recovery <;> rfl

/-- The proposer of the pending block with the hash. -/
def proposer? (t : Tracker recovery) (h : Hash) : Option PublicKey :=
  t.pending[h]?.map Proposal.proposer

/-! ### Who is the proposer after a run -/

theorem proposer?_submit (t : Tracker recovery) (b : SignedBlock) :
    (t.step (.submit b)).2.proposer? b.hash =
      (t.proposer? b.hash).or (Call.signer? recovery (.submit b)) := by
  rcases t.step_submit_cases b with ⟨hb, hstep⟩ | ⟨p, -, hpending, hstep⟩ |
    ⟨cause, hb, hpending, hk, hstep⟩ | ⟨k, hb, hpending, hk, hstep⟩
  · simp [hstep, Call.signer?, hb]
  · simp [hstep, proposer?, hpending]
  · simp [hstep, proposer?, hpending, Call.signer?, hb, hk, Except.toOption]
  · simp [hstep, proposer?, hpending, Call.signer?, hb, hk, Except.toOption]

theorem proposer?_endorse (t : Tracker recovery) (g h : Hash) (k : PublicKey) :
    (t.step (.endorse g k)).2.proposer? h = t.proposer? h :=
  (t.endorse_effect g k h).proposer_of_endorse

/-- A call puts the identity behind its block in the place if nobody has it, and changes nothing
about who has it otherwise. -/
theorem proposer?_step (t : Tracker recovery) {header : Header} {c : Call}
    (hc : c.Copies header) :
    (t.step c).2.proposer? header.hash =
      (t.proposer? header.hash).or (c.signer? recovery) := by
  cases c with
  | submit b =>
    obtain rfl : b.block.header = header := hc
    exact t.proposer?_submit b
  | endorse g k =>
    rw [proposer?_endorse, signer?_endorse, Option.or_none]
  | _ => exact hc.elim

theorem proposer?_run (t : Tracker recovery) {header : Header} {calls : List Call}
    (hcalls : ∀ c ∈ calls, c.Copies header) :
    (t.run calls).2.proposer? header.hash =
      (t.proposer? header.hash).or (firstSigner? recovery calls) := by
  induction calls generalizing t with
  | nil => exact (Option.or_none).symm
  | cons c rest ih =>
    obtain ⟨hc, hrest⟩ := List.forall_mem_cons.mp hcalls
    calc ((t.step c).2.run rest).2.proposer? header.hash
        = ((t.proposer? header.hash).or (c.signer? recovery)).or
            (firstSigner? recovery rest) := by rw [ih _ hrest, proposer?_step t hc]
      _ = (t.proposer? header.hash).or (firstSigner? recovery (c :: rest)) := by
        rw [Option.or_assoc, firstSigner?_cons]

theorem proposer?_run_empty {header : Header} {calls : List Call}
    (hcalls : ∀ c ∈ calls, c.Copies header) :
    ((empty : Tracker recovery).run calls).2.proposer? header.hash =
      firstSigner? recovery calls := by
  rw [proposer?_run _ hcalls]
  simp [proposer?, empty]

/-! ### A proposal after its copies -/

section Answer

variable {t : Tracker recovery} {b : SignedBlock} {k : PublicKey}

theorem answer_of_proposer (hbody : b.block.bodyMatches = true)
    (hp : t.proposer? b.hash = some k) :
    (t.step (.submit b)).1 = .error (.duplicateBlock b.hash) ∧
      ∃ others, (t.step (.submit b)).2.endorsers b.hash = .ok (k :: others) := by
  obtain ⟨p, hpending, rfl⟩ := Option.map_eq_some_iff.mp hp
  rw [step_submit_of_some hbody hpending]
  exact ⟨rfl, p.others, (shows_of_some hpending).endorsers⟩

theorem answer_of_no_proposer (hbody : b.block.bodyMatches = true)
    (hk : recovery b.signature b.hash = .ok k) (hp : t.proposer? b.hash = none) :
    (t.step (.submit b)).1 = .ok (.tracked b.hash) ∧
      (t.step (.submit b)).2.endorsers b.hash = .ok [k] := by
  rw [step_submit_of_recovered hbody (Option.map_eq_none_iff.mp hp) hk]
  refine ⟨rfl, (shows_of_some (p := ⟨b, k, []⟩) ?_).endorsers⟩
  rw [getElem?_pending_insert, if_pos rfl]

end Answer

/-- A block whose signature leads to `k`, submitted after copies of it.  If none of them had a
matching body and a signature that leads to anybody, the block is accepted with `k` as its only
endorser.  Otherwise it is a duplicate, and the first endorser is the identity that the first such
copy led to.  So the block gets in or the place is held in the name of `k`, unless some copy with a
matching body led to somebody else. -/
theorem submit_after_copies (recovery : Recovery) (b : SignedBlock) (k : PublicKey)
    (calls : List Call) (hbody : b.block.bodyMatches = true)
    (hk : recovery b.signature b.hash = .ok k) (hcalls : ∀ c ∈ calls, c.Copies b.block.header) :
    let last := ((empty : Tracker recovery).run calls).2.step (.submit b)
    (firstSigner? recovery calls = none →
      last.1 = .ok (.tracked b.hash) ∧ last.2.endorsers b.hash = .ok [k]) ∧
    (∀ k', firstSigner? recovery calls = some k' →
      last.1 = .error (.duplicateBlock b.hash) ∧
        ∃ others, last.2.endorsers b.hash = .ok (k' :: others)) ∧
    ((∀ copy, .submit copy ∈ calls → copy.block.bodyMatches = true →
        ∀ k', recovery copy.signature b.hash = .ok k' → k' = k) →
      last.1 = .ok (.tracked b.hash) ∨
        last.1 = .error (.duplicateBlock b.hash) ∧
          ∃ others, last.2.endorsers b.hash = .ok (k :: others)) := by
  intro last
  have hproposer : ((empty : Tracker recovery).run calls).2.proposer? b.hash =
      firstSigner? recovery calls := proposer?_run_empty hcalls
  have hnone (hfirst : firstSigner? recovery calls = none) :=
    answer_of_no_proposer hbody hk (hproposer.trans hfirst)
  have hsome (k' : PublicKey) (hfirst : firstSigner? recovery calls = some k') :=
    answer_of_proposer hbody (hproposer.trans hfirst)
  refine ⟨hnone, hsome, fun honest => ?_⟩
  cases hfirst : firstSigner? recovery calls with
  | none => exact Or.inl (hnone hfirst).1
  | some k' =>
    obtain ⟨c, hc, hsigner⟩ := List.exists_of_findSome?_eq_some hfirst
    obtain ⟨copy, rfl, hmatches, hcopy⟩ := signer?_eq_some_iff.mp hsigner
    have hhash : copy.hash = b.hash := congrArg Header.hash (hcalls _ hc)
    rw [hhash] at hcopy
    obtain rfl := honest copy hc hmatches k' hcopy
    exact Or.inr (hsome k' hfirst)

/-! ### Copies signed by somebody else -/

section Sample

def sampleIdentity (v : UInt8) : PublicKey := ⟨Octets.fill 33 v⟩

/-- A recovery that reads the identity off the last byte of the signature. -/
def sampleRecovery : Recovery := fun sig _ =>
  if sig.v = 0 then .error .invalidSignature else .ok (sampleIdentity sig.v)

/-- Copies of one block, told apart by the last bytes of their signatures. -/
def sampleCopy (v : UInt8) : SignedBlock where
  block := { header := { Header.genesis with bodyHash := Hash.keccak [7] }, body := [7] }
  signature := ⟨Octets.fill 32 0, Octets.fill 32 0, v⟩

theorem bodyMatches_sampleCopy (v : UInt8) : (sampleCopy v).block.bodyMatches = true := by
  simp [Block.bodyMatches, sampleCopy]

theorem sampleRecovery_sampleCopy (v : UInt8) (h : Hash) (hv : v ≠ 0) :
    sampleRecovery (sampleCopy v).signature h = .ok (sampleIdentity v) := by
  simp [sampleRecovery, sampleCopy, hv]

theorem signer?_sampleCopy (v : UInt8) :
    Call.signer? sampleRecovery (.submit (sampleCopy v)) =
      if v = 0 then none else some (sampleIdentity v) := by
  rw [Call.signer?, if_pos (bodyMatches_sampleCopy v)]
  by_cases hv : v = 0 <;> simp [sampleRecovery, sampleCopy, hv, Except.toOption]

def sampleCalls : List Call :=
  [.submit (sampleCopy 0), .endorse (sampleCopy 1).hash (sampleIdentity 4),
    .submit (sampleCopy 2), .submit (sampleCopy 3)]

/-- A copy whose signature leads to nobody does not take the place, the next one does, and the ones
after that come too late. -/
theorem submit_after_copies_late :
    (((empty : Tracker sampleRecovery).run sampleCalls).2.step (.submit (sampleCopy 1))).1 =
        .error (.duplicateBlock (sampleCopy 1).hash) ∧
      ∃ others, (((empty : Tracker sampleRecovery).run sampleCalls).2.step
        (.submit (sampleCopy 1))).2.endorsers (sampleCopy 1).hash =
          .ok (sampleIdentity 2 :: others) := by
  have hcalls : ∀ c ∈ sampleCalls, c.Copies (sampleCopy 1).block.header := by
    simp [sampleCalls, Call.Copies, sampleCopy]
  have hfirst : firstSigner? sampleRecovery sampleCalls = some (sampleIdentity 2) := by
    rw [sampleCalls, firstSigner?_cons, firstSigner?_cons, firstSigner?_cons, signer?_endorse,
      signer?_sampleCopy, signer?_sampleCopy]
    rfl
  exact (submit_after_copies sampleRecovery (sampleCopy 1) (sampleIdentity 1) sampleCalls
    (bodyMatches_sampleCopy 1) (sampleRecovery_sampleCopy 1 _ (by decide)) hcalls).2.1 _ hfirst

/-- A copy that somebody else signed keeps the place for its own signer. -/
theorem copy_takes_the_place :
    ¬∀ (recovery : Recovery) (b : SignedBlock) (k : PublicKey) (calls : List Call),
      b.block.bodyMatches = true → recovery b.signature b.hash = .ok k →
      (∀ c ∈ calls, c.Copies b.block.header ∧ c ≠ .submit b) →
      let last := ((empty : Tracker recovery).run calls).2.step (.submit b)
      last.1 = .ok (.tracked b.hash) ∨
        last.1 = .error (.duplicateBlock b.hash) ∧
          ∃ others, last.2.endorsers b.hash = .ok (k :: others) := by
  intro claim
  have hcopies : ∀ c ∈ [Call.submit (sampleCopy 2)], c.Copies (sampleCopy 1).block.header := by
    simp [Call.Copies, sampleCopy]
  have hproposer : ((empty : Tracker sampleRecovery).run [.submit (sampleCopy 2)]).2.proposer?
      (sampleCopy 1).hash = some (sampleIdentity 2) := by
    refine (proposer?_run_empty hcopies).trans ?_
    simp [firstSigner?, signer?_sampleCopy]
  obtain ⟨hduplicate, others, hothers⟩ :=
    answer_of_proposer (bodyMatches_sampleCopy 1) hproposer
  rcases claim sampleRecovery (sampleCopy 1) (sampleIdentity 1) [.submit (sampleCopy 2)]
    (bodyMatches_sampleCopy 1) (sampleRecovery_sampleCopy 1 _ (by decide))
    (by simp [Call.Copies, sampleCopy]) with haccepted | ⟨-, others', hothers'⟩
  · rw [hduplicate] at haccepted
    cases haccepted
  · have hsame := Except.ok.inj (hothers.symm.trans hothers')
    exact absurd (List.cons.inj hsame).1 (by decide)

end Sample

end SlotConsensus.Tracker
