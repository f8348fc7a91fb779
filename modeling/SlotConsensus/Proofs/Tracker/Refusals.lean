import SlotConsensus.Proofs.Block.Commitment
import SlotConsensus.Proofs.Tracker.Independence

/-! Refusals.  A call that changes the pending proposals is refused for the first reason that
applies, and for no other, in every state.  A refused call leaves no trace, no more than a question
does, and a call that succeeds leaves everything alone but the proposal that it is about. -/

namespace SlotConsensus.Tracker

variable {recovery : Recovery} {t : Tracker recovery}

theorem pending_eq_none_iff {h : Hash} : t.pending[h]? = none ↔ h ∉ t.waiting := by
  rw [mem_waiting_iff, Option.not_isSome_iff_eq_none]

theorem exists_pending_iff {h : Hash} : (∃ p, t.pending[h]? = some p) ↔ h ∈ t.waiting := by
  rw [mem_waiting_iff, Option.isSome_iff_exists]

/-! ### Submissions -/

/-- The outcome of a submission is decided by the body, then by what is pending, and only then by
the signature. -/
structure DecidesSubmit (t : Tracker recovery) (b : SignedBlock) (o : Outcome) : Prop where
  invalidBlock : ∀ reason, o = .error (.invalidBlock reason) ↔
    Hash.keccak b.block.body ≠ b.block.header.bodyHash ∧
      reason = "body does not match header body hash"
  duplicateBlock : ∀ g, o = .error (.duplicateBlock g) ↔
    Hash.keccak b.block.body = b.block.header.bodyHash ∧ b.hash ∈ t.waiting ∧ g = b.hash
  unknownSigner : ∀ reason, o = .error (.unknownSigner reason) ↔
    Hash.keccak b.block.body = b.block.header.bodyHash ∧ b.hash ∉ t.waiting ∧
      ∃ cause, recovery b.signature b.hash = .error cause ∧ reason = cause.message
  ok : ∀ a, o = .ok a ↔
    Hash.keccak b.block.body = b.block.header.bodyHash ∧ b.hash ∉ t.waiting ∧
      (∃ k, recovery b.signature b.hash = .ok k) ∧ a = .tracked b.hash

theorem decidesSubmit_step (t : Tracker recovery) (b : SignedBlock) :
    DecidesSubmit t b (t.step (.submit b)).1 := by
  rcases t.step_submit_cases b with ⟨hb, hstep⟩ | ⟨p, hb, hp, hstep⟩ | ⟨cause, hb, hn, hk, hstep⟩ |
    ⟨k, hb, hn, hk, hstep⟩
  · have hbody := mt Block.bodyMatches_iff.mpr (Bool.eq_false_iff.mp hb)
    rw [hstep]
    constructor <;> simp [hbody, eq_comm]
  · have hbody := Block.bodyMatches_iff.mp hb
    have hw : b.hash ∈ t.waiting := exists_pending_iff.mp ⟨p, hp⟩
    rw [hstep]
    constructor <;> simp [hbody, hw, eq_comm]
  · have hbody := Block.bodyMatches_iff.mp hb
    have hw : b.hash ∉ t.waiting := pending_eq_none_iff.mp hn
    rw [hstep]
    constructor <;> simp [hbody, hw, hk, eq_comm]
  · have hbody := Block.bodyMatches_iff.mp hb
    have hw : b.hash ∉ t.waiting := pending_eq_none_iff.mp hn
    rw [hstep]
    constructor <;> simp [hbody, hw, hk, eq_comm]

/-! ### Endorsements and removals -/

/-- The identity is among the endorsers of the pending proposal. -/
def Endorsed (t : Tracker recovery) (h : Hash) (k : PublicKey) : Prop :=
  ∃ ks, t.endorsers h = .ok ks ∧ k ∈ ks

theorem endorsed_iff_of_some {h : Hash} {p : Proposal} (hp : t.pending[h]? = some p)
    {k : PublicKey} : t.Endorsed h k ↔ k ∈ p.endorsers := by
  rw [Endorsed, (shows_of_some hp).endorsers]
  simp

/-- The outcome of an endorsement is decided by what is pending and by who has endorsed it. -/
structure DecidesEndorse (t : Tracker recovery) (h : Hash) (k : PublicKey) (o : Outcome) :
    Prop where
  unknownProposal : ∀ g, o = .error (.unknownProposal g) ↔ h ∉ t.waiting ∧ g = h
  duplicateEndorsement : ∀ g l, o = .error (.duplicateEndorsement g l) ↔
    h ∈ t.waiting ∧ t.Endorsed h k ∧ g = h ∧ l = k
  ok : ∀ a, o = .ok a ↔ h ∈ t.waiting ∧ ¬t.Endorsed h k ∧ a = .done

theorem decidesEndorse_step (t : Tracker recovery) (h : Hash) (k : PublicKey) :
    DecidesEndorse t h k (t.step (.endorse h k)).1 := by
  rcases t.step_endorse_cases h k with ⟨hn, hstep⟩ | ⟨p, hp, hk, hstep⟩ | ⟨p, hp, hk, hstep⟩
  · have hw : h ∉ t.waiting := pending_eq_none_iff.mp hn
    rw [hstep]
    constructor <;> simp [hw, eq_comm]
  · have hw : h ∈ t.waiting := exists_pending_iff.mp ⟨p, hp⟩
    have hendorsed := (endorsed_iff_of_some hp).mpr hk
    rw [hstep]
    constructor <;> simp [hw, hendorsed, eq_comm]
  · have hw : h ∈ t.waiting := exists_pending_iff.mp ⟨p, hp⟩
    have hendorsed := mt (endorsed_iff_of_some hp).mp hk
    rw [hstep]
    constructor <;> simp [hw, hendorsed, eq_comm]

/-- The outcome of a removal is decided by what is pending. -/
structure DecidesRemove (t : Tracker recovery) (h : Hash) (o : Outcome) : Prop where
  error : ∀ e, o = .error e ↔ h ∉ t.waiting ∧ e = .unknownProposal h
  ok : ∀ a, o = .ok a ↔ ∃ p, t.pending[h]? = some p ∧ a = .removed p

theorem decidesRemove_step (t : Tracker recovery) (h : Hash) :
    DecidesRemove t h (t.step (.remove h)).1 := by
  cases hpending : t.pending[h]? with
  | none =>
    have hw : h ∉ t.waiting := pending_eq_none_iff.mp hpending
    rw [step_remove_of_none hpending]
    constructor <;> simp [hw, hpending, eq_comm]
  | some p =>
    have hw : h ∈ t.waiting := exists_pending_iff.mp ⟨p, hpending⟩
    rw [step_remove hpending]
    constructor <;> simp [hw, hpending, eq_comm]

/-! ### What calls leave as it was -/

/-- The call only asks. -/
def Call.Asks : Call → Prop
  | .submit _ | .endorse _ _ | .remove _ => False
  | .endorserCount _ | .checkEndorsed _ _ | .block _ | .endorsers _ | .waiting => True

theorem step_of_asks {c : Call} (hc : c.Asks) : (t.step c).2 = t := by
  cases c with
  | submit b => cases hc
  | endorse h k => cases hc
  | remove h => cases hc
  | endorserCount h | checkEndorsed h k | block h | endorsers h | waiting => rfl

theorem step_of_error {c : Call} {e : ConsensusError} (he : (t.step c).1 = .error e) :
    (t.step c).2 = t := by
  cases c with
  | submit b =>
    cases hs : t.submit b with
    | error cause => rw [step_submit_eq, hs]
    | ok result =>
      rw [step_submit_eq, hs] at he
      cases he
  | endorse h k =>
    cases hs : t.endorse h k with
    | error cause => rw [step_endorse_eq, hs]
    | ok after =>
      rw [step_endorse_eq, hs] at he
      cases he
  | remove h =>
    cases hs : t.remove h with
    | error cause => rw [step_remove_eq, hs]
    | ok result =>
      rw [step_remove_eq, hs] at he
      cases he
  | endorserCount h | checkEndorsed h k | block h | endorsers h | waiting => rfl

/-- In every state, each call that can change it is refused for the first reason that applies, in
the order of the tests, and succeeds when none does.  What is refused changes nothing, and neither
does a question.  What succeeds changes nothing but the proposal under its own hash. -/
theorem refusals_exact_and_atomic (recovery : Recovery) (t : Tracker recovery) :
    (∀ b, DecidesSubmit t b (t.step (.submit b)).1) ∧
    (∀ h k, DecidesEndorse t h k (t.step (.endorse h k)).1) ∧
    (∀ h, DecidesRemove t h (t.step (.remove h)).1) ∧
    (∀ c e, (t.step c).1 = .error e → (t.step c).2 = t) ∧
    (∀ c, c.Asks → (t.step c).2 = t) ∧
    ∀ c h, c.target ≠ some h → (t.step c).2.pending[h]? = t.pending[h]? :=
  ⟨t.decidesSubmit_step, t.decidesEndorse_step, t.decidesRemove_step, fun _ _ => step_of_error,
    fun _ => step_of_asks, fun _ _ => t.pending_step_of_ne⟩

end SlotConsensus.Tracker
