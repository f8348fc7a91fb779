import SlotConsensus.Proofs.Tracker.Operations

/-! What a call can do to what is pending under one hash: start it, add an endorsement, end it, or
leave it alone.  Every invariant of the pending proposals has these four cases. -/

namespace SlotConsensus.Tracker

/-- How a call ends. -/
abbrev Outcome := Except ConsensusError Answer

/-- A call with its outcome turns what is pending under `h` before it into what is pending after
it. -/
inductive Effect (recovery : Recovery) (h : Hash) :
    Call → Outcome → Option Proposal → Option Proposal → Prop
  | submit {b : SignedBlock} {k : PublicKey} :
      b.hash = h → b.block.bodyMatches = true → recovery b.signature h = .ok k →
      Effect recovery h (.submit b) (.ok (.tracked h)) none (some ⟨b, k, []⟩)
  | endorse {p : Proposal} {k : PublicKey} :
      k ∉ p.endorsers →
      Effect recovery h (.endorse h k) (.ok .done) (some p)
        (some { p with others := p.others ++ [k] })
  | remove {p : Proposal} : Effect recovery h (.remove h) (.ok (.removed p)) (some p) none
  | keep {c : Call} {o : Outcome} {pending : Option Proposal} :
      (∀ b, c = .submit b → o ≠ .ok (.tracked h)) →
      (∀ p, c = .remove h → o ≠ .ok (.removed p)) →
      (∀ p k, pending = some p → c = .endorse h k → k ∈ p.endorsers) →
      Effect recovery h c o pending pending

variable {recovery : Recovery}

section Effect

variable {h : Hash} {o : Outcome} {before after : Option Proposal}

theorem Effect.eq_of_target_ne {c : Call} (heffect : Effect recovery h c o before after)
    (hc : c.target ≠ some h) : after = before := by
  cases heffect with
  | submit hhash => exact absurd (congrArg some hhash) hc
  | endorse => exact absurd rfl hc
  | remove => exact absurd rfl hc
  | keep => rfl

theorem Effect.proposer_of_endorse {g : Hash} {k : PublicKey}
    (heffect : Effect recovery h (.endorse g k) o before after) :
    after.map Proposal.proposer = before.map Proposal.proposer := by
  cases heffect with
  | endorse => rfl
  | keep => rfl

end Effect

theorem submit_effect (t : Tracker recovery) (b : SignedBlock) (h : Hash) :
    Effect recovery h (.submit b) (t.step (.submit b)).1 t.pending[h]?
      (t.step (.submit b)).2.pending[h]? := by
  rcases t.step_submit_cases b with ⟨-, hstep⟩ | ⟨p, -, -, hstep⟩ | ⟨cause, -, -, -, hstep⟩ |
    ⟨k, hb, hpending, hk, hstep⟩
  · rw [hstep]
    exact .keep (by simp) (by simp) (by simp)
  · rw [hstep]
    exact .keep (by simp) (by simp) (by simp)
  · rw [hstep]
    exact .keep (by simp) (by simp) (by simp)
  · rw [hstep, getElem?_pending_insert]
    by_cases hh : b.hash = h
    · subst hh
      rw [if_pos rfl, hpending]
      exact .submit rfl hb hk
    · rw [if_neg hh]
      exact .keep (by simpa using hh) (by simp) (by simp)

theorem endorse_effect (t : Tracker recovery) (g : Hash) (k : PublicKey) (h : Hash) :
    Effect recovery h (.endorse g k) (t.step (.endorse g k)).1 t.pending[h]?
      (t.step (.endorse g k)).2.pending[h]? := by
  rcases t.step_endorse_cases g k with ⟨hpending, hstep⟩ | ⟨p, hpending, hk, hstep⟩ |
    ⟨p, hpending, hk, hstep⟩
  · rw [hstep]
    refine .keep (by simp) (by simp) fun p' k' hp hc => ?_
    cases hc
    rw [hpending] at hp
    cases hp
  · rw [hstep]
    refine .keep (by simp) (by simp) fun p' k' hp hc => ?_
    cases hc
    rw [hpending] at hp
    cases hp
    exact hk
  · rw [hstep, getElem?_pending_insert]
    by_cases hg : g = h
    · subst hg
      rw [if_pos rfl, hpending]
      exact .endorse hk
    · rw [if_neg hg]
      refine .keep (by simp) (by simp) fun p' k' hp hc => ?_
      cases hc
      exact absurd rfl hg

theorem remove_effect (t : Tracker recovery) (g h : Hash) :
    Effect recovery h (.remove g) (t.step (.remove g)).1 t.pending[h]?
      (t.step (.remove g)).2.pending[h]? := by
  cases hpending : t.pending[g]? with
  | none =>
    rw [step_remove_of_none hpending]
    exact .keep (by simp) (by simp) (by simp)
  | some p =>
    rw [step_remove hpending, getElem?_pending_erase]
    by_cases hg : g = h
    · subst hg
      rw [if_pos rfl, hpending]
      exact .remove
    · rw [if_neg hg]
      exact .keep (by simp) (by simpa using fun hc => absurd hc hg) (by simp)

/-- Every call has one of the four effects under every hash. -/
theorem step_effect (t : Tracker recovery) (c : Call) (h : Hash) :
    Effect recovery h c (t.step c).1 t.pending[h]? (t.step c).2.pending[h]? := by
  cases c with
  | submit b => exact t.submit_effect b h
  | endorse g k => exact t.endorse_effect g k h
  | remove g => exact t.remove_effect g h
  | endorserCount g | checkEndorsed g k | block g | endorsers g | waiting =>
    exact .keep (by simp) (by simp) (by simp)

end SlotConsensus.Tracker
