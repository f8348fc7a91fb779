import SlotConsensus.Proofs.Tracker.Pending

/-! Proposals do not interfere.  The outcome of a call about a hash, and what the call leaves
pending there, depend only on what was pending there before it, and every other call leaves that
alone.  So a run looks, at each hash, like the run of the calls about that hash, and calls about
different hashes may come in any order. -/

namespace SlotConsensus.Tracker

variable {recovery : Recovery}

/-- The calls about the proposal with the hash, in order. -/
def callsAbout (h : Hash) (calls : List Call) : List Call :=
  calls.filter fun c => c.target = some h

/-- The part of the history of a run that is about the proposal with the hash. -/
def historyAbout (t : Tracker recovery) (h : Hash) (calls : List Call) : List Event :=
  (t.history calls).filter fun e => e.call.target = some h

theorem historyAbout_cons_of_eq (t : Tracker recovery) {h : Hash} {c : Call}
    (hc : c.target = some h) (rest : List Call) :
    t.historyAbout h (c :: rest) = ⟨c, (t.step c).1⟩ :: (t.step c).2.historyAbout h rest := by
  rw [historyAbout, history_cons, List.filter_cons_of_pos (by simpa using hc)]
  rfl

theorem historyAbout_cons_of_ne (t : Tracker recovery) {h : Hash} {c : Call}
    (hc : c.target ≠ some h) (rest : List Call) :
    t.historyAbout h (c :: rest) = (t.step c).2.historyAbout h rest := by
  rw [historyAbout, history_cons, List.filter_cons_of_neg (by simpa using hc)]
  rfl

/-! ### One call -/

/-- A call that is not about the hash leaves alone what is pending there. -/
theorem pending_step_of_ne (t : Tracker recovery) {h : Hash} {c : Call}
    (hc : c.target ≠ some h) : (t.step c).2.pending[h]? = t.pending[h]? :=
  (t.step_effect c h).eq_of_target_ne hc

section Congr

variable {t u : Tracker recovery} {h : Hash} (hpending : t.pending[h]? = u.pending[h]?)
include hpending

theorem find_congr : t.find h = u.find h := by
  rw [find, find, hpending]

theorem step_submit_congr {b : SignedBlock} (hb : b.hash = h) :
    (t.step (.submit b)).1 = (u.step (.submit b)).1 ∧
      (t.step (.submit b)).2.pending[h]? = (u.step (.submit b)).2.pending[h]? := by
  subst hb
  rcases t.step_submit_cases b with ⟨hbody, ht⟩ | ⟨p, hbody, hp, ht⟩ | ⟨cause, hbody, hn, hk, ht⟩ |
    ⟨k, hbody, hn, hk, ht⟩
  · rw [ht, step_submit_of_mismatch hbody]
    exact ⟨rfl, hpending⟩
  · rw [ht, step_submit_of_some hbody (hpending.symm.trans hp)]
    exact ⟨rfl, hpending⟩
  · rw [ht, step_submit_of_unrecovered hbody (hpending.symm.trans hn) hk]
    exact ⟨rfl, hpending⟩
  · rw [ht, step_submit_of_recovered hbody (hpending.symm.trans hn) hk,
      getElem?_pending_insert, getElem?_pending_insert, if_pos rfl, if_pos rfl]
    exact ⟨rfl, rfl⟩

theorem step_endorse_congr (k : PublicKey) :
    (t.step (.endorse h k)).1 = (u.step (.endorse h k)).1 ∧
      (t.step (.endorse h k)).2.pending[h]? = (u.step (.endorse h k)).2.pending[h]? := by
  rcases t.step_endorse_cases h k with ⟨hn, ht⟩ | ⟨p, hp, hk, ht⟩ | ⟨p, hp, hk, ht⟩
  · rw [ht, step_endorse_of_none (hpending.symm.trans hn)]
    exact ⟨rfl, hpending⟩
  · rw [ht, step_endorse_of_mem (hpending.symm.trans hp) hk]
    exact ⟨rfl, hpending⟩
  · rw [ht, step_endorse_of_notMem (hpending.symm.trans hp) hk,
      getElem?_pending_insert, getElem?_pending_insert, if_pos rfl, if_pos rfl]
    exact ⟨rfl, rfl⟩

theorem step_remove_congr :
    (t.step (.remove h)).1 = (u.step (.remove h)).1 ∧
      (t.step (.remove h)).2.pending[h]? = (u.step (.remove h)).2.pending[h]? := by
  cases ht : t.pending[h]? with
  | none =>
    rw [step_remove_of_none ht, step_remove_of_none (hpending.symm.trans ht)]
    exact ⟨rfl, hpending⟩
  | some p =>
    rw [step_remove ht, step_remove (hpending.symm.trans ht),
      getElem?_pending_erase, getElem?_pending_erase, if_pos rfl, if_pos rfl]
    exact ⟨rfl, rfl⟩

/-- Two trackers with the same proposal under a hash answer a call about it alike, and have the same
proposal there after it. -/
theorem step_congr {c : Call} (hc : c.target = some h) :
    (t.step c).1 = (u.step c).1 ∧ (t.step c).2.pending[h]? = (u.step c).2.pending[h]? := by
  have hfind := find_congr hpending
  cases c with
  | submit b => exact step_submit_congr hpending (Option.some.inj hc)
  | endorse g k =>
    obtain rfl := Option.some.inj hc
    exact step_endorse_congr hpending k
  | remove g =>
    obtain rfl := Option.some.inj hc
    exact step_remove_congr hpending
  | endorserCount g | checkEndorsed g k | block g | endorsers g =>
    obtain rfl := Option.some.inj hc
    simp only [step, endorserCount, checkEndorsed, block, endorsers, hfind, hpending, and_self]
  | waiting => cases hc

end Congr

/-! ### Runs -/

/-- A run looks at a hash like the run of the calls about it, from any tracker with the same
proposal there. -/
theorem run_callsAbout {t u : Tracker recovery} {h : Hash}
    (hpending : t.pending[h]? = u.pending[h]?) (calls : List Call) :
    t.historyAbout h calls = u.history (callsAbout h calls) ∧
      (t.run calls).2.pending[h]? = (u.run (callsAbout h calls)).2.pending[h]? := by
  induction calls generalizing t u with
  | nil => exact ⟨rfl, hpending⟩
  | cons c rest ih =>
    by_cases hc : c.target = some h
    · obtain ⟨hanswer, hafter⟩ := step_congr hpending hc
      obtain ⟨hhistory, hlast⟩ := ih hafter
      rw [callsAbout, List.filter_cons_of_pos (by simpa using hc), ← callsAbout]
      refine ⟨?_, hlast⟩
      rw [historyAbout_cons_of_eq t hc, history_cons, hanswer, hhistory]
    · rw [callsAbout, List.filter_cons_of_neg (by simpa using hc), ← callsAbout,
        historyAbout_cons_of_ne t hc]
      exact ih ((t.pending_step_of_ne hc).trans hpending)

theorem ext_pending {t u : Tracker recovery} (h : ∀ g : Hash, t.pending[g]? = u.pending[g]?) :
    t = u := by
  cases t
  cases u
  exact congrArg Tracker.mk (Std.ExtTreeMap.ext_getElem? h)

/-- In every run, the calls about a hash have the same outcomes as in the run of these calls alone,
and the same proposal, or none, is pending there afterwards.  So two runs that have the same calls
about each hash in the same order give each of these calls the same outcome, however they mix the
hashes, and end in the same tracker. -/
theorem proposals_do_not_interfere (recovery : Recovery) (t : Tracker recovery)
    (calls : List Call) :
    (∀ h, t.historyAbout h calls = t.history (callsAbout h calls) ∧
      (t.run calls).2.pending[h]? = (t.run (callsAbout h calls)).2.pending[h]?) ∧
    ∀ order, (∀ h, callsAbout h order = callsAbout h calls) →
      (∀ h, t.historyAbout h order = t.historyAbout h calls) ∧
      (t.run order).2 = (t.run calls).2 := by
  have halone : ∀ (calls : List Call) (h : Hash),
      t.historyAbout h calls = t.history (callsAbout h calls) ∧
        (t.run calls).2.pending[h]? = (t.run (callsAbout h calls)).2.pending[h]? :=
    fun calls _ => run_callsAbout rfl calls
  refine ⟨halone calls, fun order horder => ⟨fun h => ?_, ext_pending fun h => ?_⟩⟩
  · rw [(halone order h).1, (halone calls h).1, horder h]
  · rw [(halone order h).2, (halone calls h).2, horder h]

end SlotConsensus.Tracker
