import SlotConsensus.Proofs.Quorum
import SlotConsensus.Proofs.Tracker.Copies
import SlotConsensus.Proofs.Tracker.Pending

/-! Finality.  A proposal counts as final when a quorum of the roster is seen to have endorsed it.
Nobody is counted twice, so two proposals that are final in one run, at whatever moments, have more
than a third of the roster among the endorsers of both. -/

namespace SlotConsensus.Tracker

/-- The endorsers of a proposal under `h` as they are seen in the course of a run: those of a
pending one at any moment, or those of one that a call of the run removes. -/
inductive Observed (recovery : Recovery) (calls : List Call) (h : Hash) : List PublicKey → Prop
  | pending {before after : List Call} {ks : List PublicKey} :
      calls = before ++ after → ((empty : Tracker recovery).run before).2.endorsers h = .ok ks →
      Observed recovery calls h ks
  | removed {p : Proposal} :
      ⟨.remove h, .ok (.removed p)⟩ ∈ (empty : Tracker recovery).history calls →
      Observed recovery calls h p.endorsers

theorem Observed.nodup {recovery : Recovery} {calls : List Call} {h : Hash} {ks : List PublicKey}
    (hks : Observed recovery calls h ks) : ks.Nodup := by
  cases hks with
  | pending _ hasked =>
    obtain ⟨p, hpending, rfl⟩ := pending_of_endorsers hasked
    exact (sound_of_pending hpending).nodup
  | removed hevent =>
    obtain ⟨before, after, -, houtcome⟩ := mem_history_iff.mp hevent
    exact (sound_of_pending (pending_of_removed houtcome.symm)).nodup

/-- Two lists of endorsers that are seen in one run, each with members of the roster only and at
least as long as a quorum of it, share more than a third of the roster. -/
theorem quorums_share_a_third (recovery : Recovery) (calls : List Call) (keys : List PublicKey)
    (g h : Hash) (ks ls : List PublicKey)
    (hfits : (Roster.ofList keys).size < 0x8000000000000000)
    (hks : Observed recovery calls g ks) (hls : Observed recovery calls h ls)
    (hk : ∀ k ∈ ks, k ∈ (Roster.ofList keys).members)
    (hl : ∀ k ∈ ls, k ∈ (Roster.ofList keys).members) :
    ∃ quorum, quorumSize (Roster.ofList keys).size.toUInt64 = .ok quorum ∧
      (quorum.toNat ≤ ks.length → quorum.toNat ≤ ls.length →
        (Roster.ofList keys).size < 3 * (shared (Roster.ofList keys).members ks ls).length) := by
  obtain ⟨quorum, hquorum, hsize⟩ := quorumSize_toUInt64 hfits
  refine ⟨quorum, hquorum, ?_⟩
  intro hkq hlq
  have hboth : ks.length + ls.length ≤ (Roster.ofList keys).size +
      (shared (Roster.ofList keys).members ks ls).length :=
    length_add_length_le (Roster.ofList keys).nodup hks.nodup hls.nodup hk hl
  omega

section Sample

def sampleHash : Hash := (sampleCopy 0).hash

theorem hash_sampleCopy (v : UInt8) : (sampleCopy v).hash = sampleHash := by
  rw [sampleHash, SignedBlock.hash, SignedBlock.hash, sampleCopy, sampleCopy]

/-- A sample copy is submitted, and then endorsed by the others. -/
def sampleVotes (v : UInt8) (others : List PublicKey) : List Call :=
  .submit (sampleCopy v) :: others.map (.endorse sampleHash)

def sampleMembers : List PublicKey :=
  [sampleIdentity 1, sampleIdentity 2, sampleIdentity 1, sampleIdentity 3, sampleIdentity 4]

theorem pending_sampleVotes {t : Tracker sampleRecovery} {v : UInt8} {others : List PublicKey}
    (hv : v ≠ 0) (hn : t.pending[sampleHash]? = none)
    (hnodup : (sampleIdentity v :: others).Nodup) :
    (t.run (sampleVotes v others)).2.pending[sampleHash]? =
      some ⟨sampleCopy v, sampleIdentity v, others⟩ := by
  rw [sampleVotes, ← hash_sampleCopy v]
  rw [← hash_sampleCopy v] at hn
  exact pending_submit_endorse (bodyMatches_sampleCopy v) (sampleRecovery_sampleCopy v _ hv) hn
    hnodup

/-- Three of four members endorse a proposal, which is then removed, and another three endorse the
one that takes its place. -/
def sampleReuse : List Call :=
  sampleVotes 1 [sampleIdentity 2, sampleIdentity 3] ++
    .remove sampleHash :: sampleVotes 2 [sampleIdentity 3, sampleIdentity 4]

theorem pending_removed :
    ((empty : Tracker sampleRecovery).run
      (sampleVotes 1 [sampleIdentity 2, sampleIdentity 3])).2.pending[sampleHash]? =
        some ⟨sampleCopy 1, sampleIdentity 1, [sampleIdentity 2, sampleIdentity 3]⟩ :=
  pending_sampleVotes (by decide) (by simp [empty]) (by decide)

theorem observed_removed : Observed sampleRecovery sampleReuse sampleHash
    [sampleIdentity 1, sampleIdentity 2, sampleIdentity 3] := by
  have hevent : ⟨.remove sampleHash, .ok (.removed ⟨sampleCopy 1, sampleIdentity 1,
      [sampleIdentity 2, sampleIdentity 3]⟩)⟩ ∈
        (empty : Tracker sampleRecovery).history sampleReuse := by
    refine mem_history_iff.mpr ⟨_, _, rfl, ?_⟩
    rw [step_remove pending_removed]
  exact .removed hevent

theorem observed_pending : Observed sampleRecovery sampleReuse sampleHash
    [sampleIdentity 2, sampleIdentity 3, sampleIdentity 4] := by
  refine .pending (List.append_nil _).symm ?_
  rw [sampleReuse, run_append, run_cons, step_remove pending_removed]
  refine (shows_of_some (pending_sampleVotes (by decide) ?_ (by decide))).endorsers
  rw [getElem?_pending_erase, if_pos rfl]

/-- Both proposals have a quorum of the four members, and share the two in the middle. -/
theorem quorums_share_a_third_reused :
    Observed sampleRecovery sampleReuse sampleHash
      [sampleIdentity 1, sampleIdentity 2, sampleIdentity 3] ∧
    Observed sampleRecovery sampleReuse sampleHash
      [sampleIdentity 2, sampleIdentity 3, sampleIdentity 4] ∧
    (Roster.ofList sampleMembers).size < 3 * (shared (Roster.ofList sampleMembers).members
      [sampleIdentity 1, sampleIdentity 2, sampleIdentity 3]
      [sampleIdentity 2, sampleIdentity 3, sampleIdentity 4]).length := by
  refine ⟨observed_removed, observed_pending, ?_⟩
  obtain ⟨quorum, hquorum, hshare⟩ := quorums_share_a_third sampleRecovery sampleReuse
    sampleMembers sampleHash sampleHash _ _ (by decide) observed_removed observed_pending
    (by decide) (by decide)
  have hsize : (Roster.ofList sampleMembers).size.toUInt64.toNat = 4 := by decide
  have hthree := (quorumSize_eq_ok_iff.mp hquorum).2
  rw [hsize] at hthree
  exact hshare (by simp [hthree]) (by simp [hthree])

end Sample

end SlotConsensus.Tracker
