import SlotConsensus.Proofs.Except
import SlotConsensus.Tracker.Run

/-! What the calls of a tracker answer, by what is pending under their hash. -/

namespace SlotConsensus

@[simp] theorem Proposal.hasEndorsed_iff {p : Proposal} {k : PublicKey} :
    p.hasEndorsed k = true ↔ k ∈ p.endorsers := decide_eq_true_iff

namespace Tracker

variable {recovery : Recovery} {t : Tracker recovery} {h : Hash} {p : Proposal}

/-! ### What is pending after a change -/

theorem getElem?_pending_insert (g : Hash) :
    (t.pending.insert h p)[g]? = if h = g then some p else t.pending[g]? := by
  simp only [Std.ExtTreeMap.getElem?_insert, Std.LawfulEqOrd.compare_eq_iff_eq]

theorem getElem?_pending_erase (g : Hash) :
    (t.pending.erase h)[g]? = if h = g then none else t.pending[g]? := by
  simp only [Std.ExtTreeMap.getElem?_erase, Std.LawfulEqOrd.compare_eq_iff_eq]

/-! ### The waiting hashes -/

theorem mem_waiting_iff : h ∈ t.waiting ↔ t.pending[h]?.isSome := by
  rw [waiting, Std.ExtTreeMap.mem_keys, Std.ExtTreeMap.mem_iff_isSome_getElem?]

theorem nodup_waiting : t.waiting.Nodup := Std.ExtTreeMap.nodup_keys

theorem length_waiting : t.waiting.length = t.size := Std.ExtTreeMap.length_keys

theorem isEmpty_waiting : t.waiting.isEmpty = t.isEmpty := Std.ExtTreeMap.isEmpty_keys

/-! ### Calls about a hash under which nothing is pending -/

theorem find_of_none (hn : t.pending[h]? = none) : t.find h = .error (.unknownProposal h) := by
  simp only [find, hn]

/-- No call about the hash but a submission is answered. -/
structure Unaware (t : Tracker recovery) (h : Hash) : Prop where
  endorse : ∀ k, t.endorse h k = .error (.unknownProposal h)
  endorserCount : t.endorserCount h = .error (.unknownProposal h)
  checkEndorsed : ∀ k, t.checkEndorsed h k = .error (.unknownProposal h)
  block : t.block h = .error (.unknownProposal h)
  endorsers : t.endorsers h = .error (.unknownProposal h)
  remove : t.remove h = .error (.unknownProposal h)

theorem unaware_of_none (hn : t.pending[h]? = none) : t.Unaware h where
  endorse k := by rw [Tracker.endorse, find_of_none hn]; rfl
  endorserCount := by rw [Tracker.endorserCount, find_of_none hn]; rfl
  checkEndorsed k := by rw [Tracker.checkEndorsed, find_of_none hn]; rfl
  block := by rw [Tracker.block, find_of_none hn]; rfl
  endorsers := by rw [Tracker.endorsers, find_of_none hn]; rfl
  remove := by rw [Tracker.remove, find_of_none hn]; rfl

/-! ### Calls about a pending proposal -/

theorem find_of_some (hp : t.pending[h]? = some p) : t.find h = .ok p := by
  simp only [find, hp]

theorem endorse_of_mem (hp : t.pending[h]? = some p) {k : PublicKey} (hk : k ∈ p.endorsers) :
    t.endorse h k = .error (.duplicateEndorsement h k) := by
  rw [endorse, find_of_some hp, ok_bind, if_pos (Proposal.hasEndorsed_iff.mpr hk)]
  rfl

theorem endorse_of_notMem (hp : t.pending[h]? = some p) {k : PublicKey} (hk : k ∉ p.endorsers) :
    t.endorse h k =
      .ok ⟨t.pending.insert h { p with others := p.others ++ [k] }⟩ := by
  rw [endorse, find_of_some hp, ok_bind, if_neg (mt Proposal.hasEndorsed_iff.mp hk)]
  rfl

theorem remove_of_some (hp : t.pending[h]? = some p) :
    t.remove h = .ok (p, ⟨t.pending.erase h⟩) := by
  rw [remove, find_of_some hp]
  rfl

theorem checkEndorsed_of_some (hp : t.pending[h]? = some p) (k : PublicKey) :
    t.checkEndorsed h k = if k ∈ p.endorsers then .ok () else .error (.notEndorsed h k) := by
  rw [checkEndorsed, find_of_some hp, ok_bind]
  by_cases hk : k ∈ p.endorsers
  · rw [if_pos hk, Proposal.hasEndorsed_iff.mpr hk]
    rfl
  · rw [if_neg hk, Bool.eq_false_iff.mpr (mt Proposal.hasEndorsed_iff.mp hk)]
    rfl

/-- The tracker answers the questions about the hash by the block and its endorsers, and gives them
up together. -/
structure Shows (t : Tracker recovery) (h : Hash) (b : SignedBlock) (ks : List PublicKey) :
    Prop where
  block : t.block h = .ok b
  endorsers : t.endorsers h = .ok ks
  endorserCount : t.endorserCount h = .ok ks.length
  checkEndorsed : ∀ k, t.checkEndorsed h k = if k ∈ ks then .ok () else .error (.notEndorsed h k)
  remove : ∃ p after, t.remove h = .ok (p, after) ∧ p.block = b ∧ p.endorsers = ks

theorem shows_of_some (hp : t.pending[h]? = some p) : t.Shows h p.block p.endorsers where
  block := by rw [Tracker.block, find_of_some hp]; rfl
  endorsers := by rw [Tracker.endorsers, find_of_some hp]; rfl
  endorserCount := by rw [Tracker.endorserCount, find_of_some hp]; rfl
  checkEndorsed := checkEndorsed_of_some hp
  remove := ⟨p, _, remove_of_some hp, rfl, rfl⟩

/-! ### Submissions -/

variable {b : SignedBlock}

theorem submit_of_mismatch (hb : b.block.bodyMatches = false) :
    t.submit b = .error (.invalidBlock "body does not match header body hash") := by
  simp [submit, hb]

theorem submit_of_some (hb : b.block.bodyMatches = true) (hp : t.pending[b.hash]? = some p) :
    t.submit b = .error (.duplicateBlock b.hash) := by
  have hmem : b.hash ∈ t.pending := by
    rw [Std.ExtTreeMap.mem_iff_isSome_getElem?, hp]
    rfl
  simp [submit, hb, hmem]

theorem submit_of_none (hb : b.block.bodyMatches = true) (hn : t.pending[b.hash]? = none) :
    t.submit b =
      match recovery b.signature b.hash with
      | .ok k => .ok (b.hash, ⟨t.pending.insert b.hash ⟨b, k, []⟩⟩)
      | .error cause => .error (.unknownSigner cause.message) := by
  have hmem : b.hash ∉ t.pending := by
    rw [Std.ExtTreeMap.mem_iff_isSome_getElem?, hn]
    simp
  cases hk : recovery b.signature b.hash <;> simp [submit, hb, hmem, hk]

/-! ### Calls as steps

Each call that can change the tracker is split here once, by all that it tests, and the proofs about
single calls start from these cases. -/

theorem step_submit_eq (t : Tracker recovery) (b : SignedBlock) :
    t.step (.submit b) =
      match t.submit b with
      | .ok (h, after) => (.ok (.tracked h), after)
      | .error e => (.error e, t) := rfl

theorem step_endorse_eq (t : Tracker recovery) (h : Hash) (k : PublicKey) :
    t.step (.endorse h k) =
      match t.endorse h k with
      | .ok after => (.ok .done, after)
      | .error e => (.error e, t) := rfl

theorem step_remove_eq (t : Tracker recovery) (h : Hash) :
    t.step (.remove h) =
      match t.remove h with
      | .ok (p, after) => (.ok (.removed p), after)
      | .error e => (.error e, t) := rfl

theorem step_submit_of_mismatch (hb : b.block.bodyMatches = false) :
    t.step (.submit b) =
      (.error (.invalidBlock "body does not match header body hash"), t) := by
  rw [step_submit_eq, submit_of_mismatch hb]

theorem step_submit_of_some (hb : b.block.bodyMatches = true) (hp : t.pending[b.hash]? = some p) :
    t.step (.submit b) = (.error (.duplicateBlock b.hash), t) := by
  rw [step_submit_eq, submit_of_some hb hp]

section Vacant

variable (hb : b.block.bodyMatches = true) (hn : t.pending[b.hash]? = none)
include hb hn

theorem step_submit_of_unrecovered {cause : KeyError}
    (hk : recovery b.signature b.hash = .error cause) :
    t.step (.submit b) = (.error (.unknownSigner cause.message), t) := by
  rw [step_submit_eq, submit_of_none hb hn, hk]

theorem step_submit_of_recovered {k : PublicKey} (hk : recovery b.signature b.hash = .ok k) :
    t.step (.submit b) = (.ok (.tracked b.hash), ⟨t.pending.insert b.hash ⟨b, k, []⟩⟩) := by
  rw [step_submit_eq, submit_of_none hb hn, hk]

end Vacant

theorem step_submit_cases (t : Tracker recovery) (b : SignedBlock) :
    (b.block.bodyMatches = false ∧
      t.step (.submit b) =
        (.error (.invalidBlock "body does not match header body hash"), t)) ∨
    (∃ p, b.block.bodyMatches = true ∧ t.pending[b.hash]? = some p ∧
      t.step (.submit b) = (.error (.duplicateBlock b.hash), t)) ∨
    (∃ cause, b.block.bodyMatches = true ∧ t.pending[b.hash]? = none ∧
      recovery b.signature b.hash = .error cause ∧
      t.step (.submit b) = (.error (.unknownSigner cause.message), t)) ∨
    (∃ k, b.block.bodyMatches = true ∧ t.pending[b.hash]? = none ∧
      recovery b.signature b.hash = .ok k ∧
      t.step (.submit b) = (.ok (.tracked b.hash), ⟨t.pending.insert b.hash ⟨b, k, []⟩⟩)) := by
  cases hb : b.block.bodyMatches with
  | false => exact Or.inl ⟨rfl, step_submit_of_mismatch hb⟩
  | true =>
    cases hpending : t.pending[b.hash]? with
    | some p => exact Or.inr (Or.inl ⟨p, rfl, rfl, step_submit_of_some hb hpending⟩)
    | none =>
      cases hk : recovery b.signature b.hash with
      | error cause =>
        exact Or.inr (Or.inr (Or.inl
          ⟨cause, rfl, rfl, rfl, step_submit_of_unrecovered hb hpending hk⟩))
      | ok k =>
        exact Or.inr (Or.inr (Or.inr ⟨k, rfl, rfl, rfl, step_submit_of_recovered hb hpending hk⟩))

theorem step_endorse_of_none (hn : t.pending[h]? = none) (k : PublicKey) :
    t.step (.endorse h k) = (.error (.unknownProposal h), t) := by
  rw [step_endorse_eq, (unaware_of_none hn).endorse]

theorem step_endorse_of_mem (hp : t.pending[h]? = some p) {k : PublicKey} (hk : k ∈ p.endorsers) :
    t.step (.endorse h k) = (.error (.duplicateEndorsement h k), t) := by
  rw [step_endorse_eq, endorse_of_mem hp hk]

theorem step_endorse_of_notMem (hp : t.pending[h]? = some p) {k : PublicKey}
    (hk : k ∉ p.endorsers) :
    t.step (.endorse h k) =
      (.ok .done, ⟨t.pending.insert h { p with others := p.others ++ [k] }⟩) := by
  rw [step_endorse_eq, endorse_of_notMem hp hk]

theorem step_endorse_cases (t : Tracker recovery) (h : Hash) (k : PublicKey) :
    (t.pending[h]? = none ∧ t.step (.endorse h k) = (.error (.unknownProposal h), t)) ∨
    (∃ p, t.pending[h]? = some p ∧ k ∈ p.endorsers ∧
      t.step (.endorse h k) = (.error (.duplicateEndorsement h k), t)) ∨
    (∃ p, t.pending[h]? = some p ∧ k ∉ p.endorsers ∧
      t.step (.endorse h k) =
        (.ok .done, ⟨t.pending.insert h { p with others := p.others ++ [k] }⟩)) := by
  cases hpending : t.pending[h]? with
  | none => exact Or.inl ⟨rfl, step_endorse_of_none hpending k⟩
  | some p =>
    by_cases hk : k ∈ p.endorsers
    · exact Or.inr (Or.inl ⟨p, rfl, hk, step_endorse_of_mem hpending hk⟩)
    · exact Or.inr (Or.inr ⟨p, rfl, hk, step_endorse_of_notMem hpending hk⟩)

theorem step_remove_of_none (hn : t.pending[h]? = none) :
    t.step (.remove h) = (.error (.unknownProposal h), t) := by
  rw [step_remove_eq, (unaware_of_none hn).remove]

theorem step_remove (hp : t.pending[h]? = some p) :
    t.step (.remove h) = (.ok (.removed p), ⟨t.pending.erase h⟩) := by
  rw [step_remove_eq, remove_of_some hp]

end Tracker

end SlotConsensus
