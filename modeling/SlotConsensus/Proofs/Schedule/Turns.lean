import Mathlib.Data.List.Rotate
import SlotConsensus.Proofs.Schedule.Epochs

/-! Turns.  As many slots in a row as the roster has members are led by all of them in turn, from
the member on whose turn it is at the first of these slots.  This holds inside an epoch, and across
the end of an epoch when the turns that start anew there would have started anew anyway, as they do
when the slots of an epoch make a whole number of rounds. -/

namespace SlotConsensus

/-- The same error, said of another time where it says that a time is no slot. -/
def ConsensusError.atTime (time : Timestamp) : ConsensusError → ConsensusError
  | .unaligned _ => .unaligned time
  | e => e

namespace Schedule

variable {s : Schedule} {r : Roster}

/-! ### One round -/

/-- Inside an epoch the places of slots in a row count up. -/
theorem place_of_same_epoch {first j : Nat} (hd : s.interval.toNat ∣ first)
    (h : (first + j * s.interval.toNat) / s.epochLength.toNat = first / s.epochLength.toNat) :
    (first / s.interval.toNat + j) % s.slotsPerEpoch =
      first / s.interval.toNat % s.slotsPerEpoch + j := by
  obtain ⟨a, rfl⟩ := hd
  have hi := s.interval_pos
  rw [← slotsPerEpoch_mul_interval, Nat.mul_comm s.interval.toNat a, ← Nat.add_mul,
    Nat.mul_div_mul_right _ _ hi, Nat.mul_div_mul_right _ _ hi] at h
  rw [Nat.mul_div_cancel_left _ hi]
  -- The numbers of the two slots have one quotient, so their remainders differ as they do.
  have hlater := Nat.div_add_mod (a + j) s.slotsPerEpoch
  have hearlier := Nat.div_add_mod a s.slotsPerEpoch
  rw [h] at hlater
  omega

/-- The places in the roster of slots in a row count on from that of the first one. -/
theorem turn_eq {first j n : Nat} (hd : s.interval.toNat ∣ first)
    (h : (first + j * s.interval.toNat) / s.epochLength.toNat = first / s.epochLength.toNat ∨
      n ∣ s.slotsPerEpoch) :
    (first / s.interval.toNat + j) % s.slotsPerEpoch % n =
      (j + first / s.interval.toNat % s.slotsPerEpoch) % n := by
  rcases h with h | h
  · rw [place_of_same_epoch hd h, Nat.add_comm]
  -- With whole rounds in an epoch, its length does not matter modulo `n`.
  · rw [Nat.mod_mod_of_dvd _ h, Nat.add_comm, Nat.add_mod j, Nat.add_mod j (_ % _),
      Nat.mod_mod_of_dvd _ h]

/-- The leaders of as many slots in a row as there are members are all the members in turn. -/
theorem map_leader_slotsFrom {first : Nat} (hd : s.interval.toNat ∣ first)
    (hfit : ∀ j < r.members.length, first + j * s.interval.toNat < UInt64.size)
    (hround : (∀ j < r.members.length,
        (first + j * s.interval.toNat) / s.epochLength.toNat = first / s.epochLength.toNat) ∨
      r.members.length ∣ s.slotsPerEpoch) :
    (s.slotsFrom first r.members.length).map (s.leader · r) =
      (r.members.rotate (first / s.interval.toNat % s.slotsPerEpoch)).map .ok := by
  apply List.ext_getElem
  · simp [slotsFrom]
  · intro j hj hj'
    have hlt : j < r.members.length := by simpa [slotsFrom] using hj
    have hturn := turn_eq hd (hround.imp_left fun h => h j hlt)
    simp only [slotsFrom, List.getElem_map, List.getElem_range, List.getElem_rotate]
    rw [leader_slot_eq_ok_iff hd (hfit j hlt), hturn, List.getElem?_eq_getElem]

/-- A value that a function takes on a list, where it takes each value once only, is that of one
element of the list only. -/
theorem existsUnique_of_mem_map {α β : Type} {l : List α} {f : α → β} (hl : (l.map f).Nodup)
    {b : β} (hb : b ∈ l.map f) : ∃! a, a ∈ l ∧ f a = b := by
  obtain ⟨a, ha, rfl⟩ := List.mem_map.mp hb
  refine ⟨a, ⟨ha, rfl⟩, fun a' ⟨ha', heq⟩ => ?_⟩
  exact List.inj_on_of_nodup_map hl ha' ha heq

/-! ### One epoch later -/

theorem slotIndex_add_epochLength {t : Timestamp}
    (hfit : t.toNat + s.epochLength.toNat < UInt64.size) :
    s.slotIndex (t + s.epochLength) =
      (s.slotIndex t).mapError (.atTime (t + s.epochLength)) := by
  have hoffset : (t + s.epochLength) % s.epochLength = t % s.epochLength := by
    apply UInt64.toNat_inj.mp
    rw [UInt64.toNat_mod, UInt64.toNat_add, Nat.mod_eq_of_lt hfit, Nat.add_mod_right,
      UInt64.toNat_mod]
  simp only [slotIndex, hoffset]
  split <;> rfl

theorem leader_add_epochLength {t : Timestamp}
    (hfit : t.toNat + s.epochLength.toNat < UInt64.size) :
    s.leader (t + s.epochLength) r =
      (s.leader t r).mapError (.atTime (t + s.epochLength)) := by
  rw [leader, leader, slotIndex_add_epochLength hfit]
  cases s.slotIndex t with
  | error e => rfl
  | ok index =>
    simp only [Except.mapError, bind, Except.bind]
    split <;> rfl

/-- By the roster of any keys, as many slots in a row as there are members are led by all of them in
turn, each of them once, if the slots are in one epoch or an epoch has a whole number of rounds.
One epoch later there is the same leader, or the same error but for the time in it.  The times that
are refused as unaligned are those that are no slots. -/
theorem rotation_in_turn (s : Schedule) (keys : List PublicKey) :
    let r := Roster.ofList keys
    let n := r.members.length
    (∀ first : Timestamp, s.interval.toNat ∣ first.toNat →
      (∀ j < n, first.toNat + j * s.interval.toNat < UInt64.size) →
      ((∀ j < n, (first.toNat + j * s.interval.toNat) / s.epochLength.toNat =
          first.toNat / s.epochLength.toNat) ∨ n ∣ s.slotsPerEpoch) →
      (s.slotsFrom first.toNat n).map (s.leader · r) =
        (r.members.rotate (first.toNat / s.interval.toNat % s.slotsPerEpoch)).map .ok ∧
      ∀ k ∈ r.members, ∃! slot, slot ∈ s.slotsFrom first.toNat n ∧ s.leader slot r = .ok k) ∧
    (∀ t : Timestamp, t.toNat + s.epochLength.toNat < UInt64.size →
      s.leader (t + s.epochLength) r =
        (s.leader t r).mapError (.atTime (t + s.epochLength))) ∧
    ∀ t time : Timestamp,
      s.leader t r = .error (.unaligned time) ↔ time = t ∧ ¬s.interval.toNat ∣ t.toNat := by
  intro r n
  refine ⟨fun first hd hfit hround => ?_, fun t hfit => leader_add_epochLength hfit,
    fun t time => leader_eq_unaligned_iff⟩
  have hturns := map_leader_slotsFrom hd hfit hround
  refine ⟨hturns, fun k hk => existsUnique_of_mem_map ?_ ?_⟩
  · rw [hturns]
    exact (List.nodup_rotate.mpr r.nodup).map fun _ _ h => Except.ok.inj h
  · rw [hturns]
    exact List.mem_map_of_mem (List.mem_rotate.mpr hk)

/-- Two keys for examples, of which the first is repeated. -/
def sampleKeys : List PublicKey := [1, 2, 1].map fun b => ⟨Octets.fill 33 b⟩

/-- The last slot of one day and the first of the next are led by both of two members, since a day
has an even number of slots of ten seconds. -/
theorem rotation_in_turn_at_midnight :
    let r := Roster.ofList sampleKeys
    r.members.length ∣ standard.slotsPerEpoch ∧
    (standard.slotsFrom 86390 2).map (standard.leader · r) =
      [.ok ⟨Octets.fill 33 2⟩, .ok ⟨Octets.fill 33 1⟩] := by
  intro r
  have hround : r.members.length ∣ standard.slotsPerEpoch := by decide
  obtain ⟨hturns, -, -⟩ := rotation_in_turn standard sampleKeys
  obtain ⟨hmap, -⟩ := hturns 86390 (by decide) (by decide) (.inr hround)
  exact ⟨hround, hmap.trans (by decide)⟩

end Schedule

end SlotConsensus
