import Mathlib.Data.List.Nodup
import SlotConsensus.Proofs.Tracker.History

/-! Pending proposals at every moment of a run.  A proposal is pending under the hash of its header,
its body belongs to the header, and nobody endorses it twice.  The calls of a run cut it into
moments: each event of its history is a call of the tracker that the calls before it leave. -/

namespace SlotConsensus.Tracker

variable {recovery : Recovery}

/-! ### Sound proposals -/

/-- The proposal may be pending under `h`. -/
structure Sound (h : Hash) (p : Proposal) : Prop where
  hash : p.block.hash = h
  body : p.block.block.bodyMatches = true
  nodup : p.endorsers.Nodup

theorem endorsers_concat (p : Proposal) (ks : List PublicKey) :
    Proposal.endorsers { p with others := p.others ++ ks } = p.endorsers ++ ks := rfl

theorem sound_of_effect {h : Hash} {c : Call} {o : Outcome} {before after : Option Proposal}
    (heffect : Effect recovery h c o before after) (hbefore : ∀ p ∈ before, Sound h p) :
    ∀ p ∈ after, Sound h p := by
  cases heffect with
  | @submit b k hhash hbody _ =>
    intro p hp
    obtain rfl := Option.mem_some_iff.mp hp
    exact ⟨hhash, hbody, List.nodup_singleton k⟩
  | @endorse q k hk =>
    intro p hp
    obtain rfl := Option.mem_some_iff.mp hp
    have hq := hbefore q rfl
    refine ⟨hq.hash, hq.body, ?_⟩
    rw [endorsers_concat, ← List.concat_eq_append]
    exact hq.nodup.concat hk
  | remove => simp
  | keep => exact hbefore

theorem sound_run {t : Tracker recovery} (ht : ∀ h, ∀ p ∈ t.pending[h]?, Sound h p)
    (calls : List Call) : ∀ h, ∀ p ∈ (t.run calls).2.pending[h]?, Sound h p := by
  induction calls generalizing t with
  | nil => exact ht
  | cons c rest ih => exact ih fun h => sound_of_effect (t.step_effect c h) (ht h)

/-- Whatever is pending after a run from the empty tracker is sound. -/
theorem sound_of_pending {calls : List Call} {h : Hash} {p : Proposal}
    (hp : ((empty : Tracker recovery).run calls).2.pending[h]? = some p) : Sound h p := by
  refine sound_run (t := empty) ?_ calls h p hp
  intro g q hq
  simp [empty] at hq

/-! ### Moments -/

theorem history_cons (t : Tracker recovery) (c : Call) (rest : List Call) :
    t.history (c :: rest) = ⟨c, (t.step c).1⟩ :: (t.step c).2.history rest := rfl

theorem run_cons (t : Tracker recovery) (c : Call) (rest : List Call) :
    (t.run (c :: rest)).2 = ((t.step c).2.run rest).2 := rfl

theorem run_append (t : Tracker recovery) (calls more : List Call) :
    (t.run (calls ++ more)).2 = ((t.run calls).2.run more).2 := by
  induction calls generalizing t with
  | nil => rfl
  | cons c rest ih => exact ih (t.step c).2

theorem mem_history_iff {t : Tracker recovery} {calls : List Call} {c : Call} {o : Outcome} :
    ⟨c, o⟩ ∈ t.history calls ↔
      ∃ before after, calls = before ++ c :: after ∧ o = ((t.run before).2.step c).1 := by
  induction calls generalizing t with
  | nil => simp [history]
  | cons d rest ih =>
    rw [history_cons, List.mem_cons, ih]
    constructor
    · rintro (hfirst | ⟨before, after, rfl, ho⟩)
      · cases hfirst
        exact ⟨[], rest, rfl, rfl⟩
      · exact ⟨d :: before, after, rfl, ho⟩
    · rintro ⟨before, after, hsplit, ho⟩
      cases before with
      | nil =>
        cases hsplit
        exact Or.inl (congrArg (Event.mk c) ho)
      | cons first before =>
        cases hsplit
        exact Or.inr ⟨before, after, rfl, ho⟩

section Answers

variable {t : Tracker recovery} {h : Hash} {p : Proposal}

theorem pending_of_endorsers {ks : List PublicKey} (ho : t.endorsers h = .ok ks) :
    ∃ p, t.pending[h]? = some p ∧ p.endorsers = ks := by
  cases hpending : t.pending[h]? with
  | none =>
    rw [(unaware_of_none hpending).endorsers] at ho
    cases ho
  | some p =>
    rw [(shows_of_some hpending).endorsers] at ho
    exact ⟨p, rfl, Except.ok.inj ho⟩

theorem pending_of_removed (ho : (t.step (.remove h)).1 = .ok (.removed p)) :
    t.pending[h]? = some p := by
  cases hpending : t.pending[h]? with
  | none =>
    rw [step_remove_of_none hpending] at ho
    cases ho
  | some q =>
    rw [step_remove hpending] at ho
    cases ho
    rfl

end Answers

/-! ### Endorsements one after the other -/

/-- Endorsements of a pending proposal by different identities, none of whom has endorsed it yet,
all succeed. -/
theorem run_endorse {t : Tracker recovery} {h : Hash} {p : Proposal} {ks : List PublicKey}
    (hp : t.pending[h]? = some p) (hks : (p.endorsers ++ ks).Nodup) :
    (∀ o ∈ (t.run (ks.map (.endorse h))).1, o = .ok .done) ∧
      (t.run (ks.map (.endorse h))).2.pending[h]? = some { p with others := p.others ++ ks } := by
  induction ks generalizing t p with
  | nil => simp [run, hp]
  | cons k rest ih =>
    have hk : k ∉ p.endorsers := fun hmem =>
      (List.nodup_append.mp hks).2.2 k hmem k List.mem_cons_self rfl
    simp only [List.map_cons, run, step_endorse_of_notMem hp hk]
    obtain ⟨hanswers, hlast⟩ := ih (t := ⟨t.pending.insert h { p with others := p.others ++ [k] }⟩)
      (p := { p with others := p.others ++ [k] }) (by rw [getElem?_pending_insert, if_pos rfl])
      (by rwa [endorsers_concat, List.append_assoc])
    refine ⟨?_, ?_⟩
    · intro o ho
      rcases List.mem_cons.mp ho with rfl | ho
      · rfl
      · exact hanswers o ho
    · rw [hlast]
      simp

section Accepted

variable {t : Tracker recovery} {b : SignedBlock} {k : PublicKey}
  (hb : b.block.bodyMatches = true) (hk : recovery b.signature b.hash = .ok k)
  (hn : t.pending[b.hash]? = none)
include hb hk hn

/-- A block whose hash is not pending is accepted, and then endorsements by others all succeed and
leave its proposal with all of them. -/
theorem submit_endorse :
    ∃ after, t.submit b = .ok (b.hash, after) ∧ ∀ ks : List PublicKey, (k :: ks).Nodup →
      (∀ o ∈ (after.run (ks.map (.endorse b.hash))).1, o = .ok .done) ∧
        (after.run (ks.map (.endorse b.hash))).2.pending[b.hash]? = some ⟨b, k, ks⟩ := by
  refine ⟨⟨t.pending.insert b.hash ⟨b, k, []⟩⟩, ?_, ?_⟩
  · rw [submit_of_none hb hn, hk]
  · intro ks hks
    have hfirst : (t.pending.insert b.hash ⟨b, k, []⟩)[b.hash]? = some ⟨b, k, []⟩ := by
      rw [getElem?_pending_insert, if_pos rfl]
    exact run_endorse (t := ⟨_⟩) hfirst hks

theorem pending_submit_endorse {ks : List PublicKey} (hks : (k :: ks).Nodup) :
    (t.run (.submit b :: ks.map (.endorse b.hash))).2.pending[b.hash]? = some ⟨b, k, ks⟩ := by
  obtain ⟨after, hsubmit, hendorse⟩ := submit_endorse hb hk hn
  have hstep : (t.step (.submit b)).2 = after := by
    rw [step_submit_eq, hsubmit]
  rw [run_cons, hstep]
  exact (hendorse ks hks).2

end Accepted

end SlotConsensus.Tracker
