import SlotConsensus.Node
import SlotConsensus.Proofs.Except
import SlotConsensus.Proofs.Schedule.Deadline
import SlotConsensus.Proofs.Schedule.Epochs

/-! Settings of a node, and what they leave of it: the schedule, and the roster that was set last.
The gate of a node lets a producer through exactly when the deadline has passed and the producer is
the leader. -/

namespace SlotConsensus.Node

/-! ### Settings -/

/-- A change of the keys that a node trusts, or of who the node is. -/
inductive Setting
  | roster (keys : List PublicKey)
  | signer (key : PublicKey)
  deriving DecidableEq

def set (n : Node) : Setting → Node
  | .roster keys => n.setRoster keys
  | .signer key => n.setSigner key

/-- The node after changes made one after the other. -/
def setAll (n : Node) (settings : List Setting) : Node := settings.foldl set n

/-- The keys of the last change of the roster, if there is one. -/
def lastRoster? : List Setting → Option (List PublicKey)
  | [] => none
  | .roster keys :: rest => (lastRoster? rest).or (some keys)
  | .signer _ :: rest => lastRoster? rest

@[simp] theorem schedule_set (n : Node) (c : Setting) : (n.set c).schedule = n.schedule := by
  cases c <;> rfl

@[simp] theorem schedule_setAll (n : Node) (settings : List Setting) :
    (n.setAll settings).schedule = n.schedule := by
  induction settings generalizing n with
  | nil => rfl
  | cons c rest ih => exact (ih (n.set c)).trans (n.schedule_set c)

/-- The roster of a node is the one that was set last. -/
theorem roster_setAll (n : Node) (settings : List Setting) :
    (n.setAll settings).roster = ((lastRoster? settings).map Roster.ofList).getD n.roster := by
  induction settings generalizing n with
  | nil => rfl
  | cons c rest ih =>
    have hrest := ih (n.set c)
    cases c with
    | roster keys =>
      rw [setAll, List.foldl_cons, ← setAll, hrest, lastRoster?]
      cases lastRoster? rest <;> rfl
    | signer key => exact hrest

/-! ### The gate -/

variable {n : Node} {last now : Timestamp} {k p : PublicKey}

theorem leaderAt_eq_ok_iff :
    n.leaderAt now = .ok k ↔
      n.roster.members[(n.schedule.prevSlot now).toNat / n.schedule.interval.toNat %
        n.schedule.slotsPerEpoch % n.roster.members.length]? = some k :=
  Schedule.leader_eq_ok_iff (n.schedule.interval_dvd_prevSlot now)

theorem checkProducer_of_leaderAt (hd : n.checkDeadline last now = .ok ())
    (hl : n.leaderAt now = .ok k) (p : PublicKey) :
    n.checkProducer last now p =
      if k = p then .ok () else .error (.wrongProducer (n.schedule.prevSlot now) k p) := by
  simp only [checkProducer, hd, hl, ok_bind]
  by_cases h : k = p
  · simp only [h, ne_eq, not_true_eq_false, ↓reduceIte]
    rfl
  · simp only [h, ne_eq, not_false_eq_true, ↓reduceIte]
    rfl

theorem checkProducer_eq_ok_iff :
    n.checkProducer last now p = .ok () ↔
      n.checkDeadline last now = .ok () ∧ n.leaderAt now = .ok p := by
  constructor
  · intro h
    obtain ⟨⟨⟩, hd, hrest⟩ := bind_eq_ok_iff.mp h
    obtain ⟨k, hl, -⟩ := bind_eq_ok_iff.mp hrest
    rw [checkProducer_of_leaderAt hd hl] at h
    split at h
    · rename_i hk
      exact ⟨hd, hk ▸ hl⟩
    · cases h
  · rintro ⟨hd, hl⟩
    rw [checkProducer_of_leaderAt hd hl, if_pos rfl]

end SlotConsensus.Node
