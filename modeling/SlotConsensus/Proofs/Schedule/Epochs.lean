import SlotConsensus.Proofs.Schedule.Slots

/-! Epochs in numbers without bound: each has the same number of slots, and the slots from its first
one on belong to it until they are all counted.  The leader of a slot that comes so many slots after
another is the member of the roster at a place that counts on with them. -/

namespace SlotConsensus.Schedule

/-- The number of slots in an epoch. -/
def slotsPerEpoch (s : Schedule) : Nat := s.epochLength.toNat / s.interval.toNat

/-- The given number of slots, one interval after the other, of which the first is `first`. -/
def slotsFrom (s : Schedule) (first count : Nat) : List Timestamp :=
  (List.range count).map fun j => (first + j * s.interval.toNat).toUInt64

variable {s : Schedule}

theorem slotsPerEpoch_mul_interval : s.slotsPerEpoch * s.interval.toNat = s.epochLength.toNat :=
  Nat.div_mul_cancel s.interval_dvd

theorem slotsPerEpoch_pos : 0 < s.slotsPerEpoch :=
  Nat.div_pos (Nat.le_of_dvd s.epochLength_pos s.interval_dvd) s.interval_pos

/-- The slot at the place `i` of an epoch belongs to that epoch. -/
theorem slot_div_epochLength {i : Nat} (hi : i < s.slotsPerEpoch) (epoch : Nat) :
    (i + epoch * s.slotsPerEpoch) * s.interval.toNat / s.epochLength.toNat = epoch := by
  have hoffset : i * s.interval.toNat < s.epochLength.toNat := by
    rw [← slotsPerEpoch_mul_interval]
    exact Nat.mul_lt_mul_of_pos_right hi s.interval_pos
  rw [Nat.add_mul, Nat.mul_assoc, slotsPerEpoch_mul_interval,
    Nat.add_mul_div_right _ _ s.epochLength_pos, Nat.div_eq_of_lt hoffset, Nat.zero_add]

/-! ### Leaders -/

/-- The offset of a time in its epoch is a multiple of the interval exactly when the time is one. -/
theorem offset_mod_interval_eq_zero_iff {time : Timestamp} :
    time % s.epochLength % s.interval = 0 ↔ s.interval.toNat ∣ time.toNat := by
  rw [← UInt64.toNat_inj, UInt64.toNat_mod, UInt64.toNat_mod,
    Nat.mod_mod_of_dvd _ s.interval_dvd]
  exact (Nat.dvd_iff_mod_eq_zero ..).symm

/-- The place of a slot in its epoch is the number of the slot modulo the slots of an epoch. -/
theorem slotIndex_of_dvd {slot : Timestamp} (h : s.interval.toNat ∣ slot.toNat) :
    s.slotIndex slot = .ok (slot / s.interval % (s.epochLength / s.interval)) := by
  obtain ⟨slots, hslots⟩ := s.interval_dvd
  have hi := s.interval_pos
  have hindex : slot % s.epochLength / s.interval =
      slot / s.interval % (s.epochLength / s.interval) := by
    apply UInt64.toNat_inj.mp
    simp only [UInt64.toNat_mod, UInt64.toNat_div]
    rw [hslots, Nat.mul_div_cancel_left _ hi, Nat.mod_mul_right_div_self]
  simp only [slotIndex, offset_mod_interval_eq_zero_iff.mpr h, ↓reduceIte, hindex]

theorem slotIndex_of_not_dvd {time : Timestamp} (h : ¬s.interval.toNat ∣ time.toNat) :
    s.slotIndex time = .error (.unaligned time) := by
  simp only [slotIndex, if_neg fun haligned => h (offset_mod_interval_eq_zero_iff.mp haligned)]

/-- The leader of a slot is the member of the roster at the place of the slot in its epoch, modulo
the size of the roster. -/
theorem leader_eq_ok_iff {slot : Timestamp} (h : s.interval.toNat ∣ slot.toNat) {r : Roster}
    {k : PublicKey} :
    s.leader slot r = .ok k ↔
      r.members[slot.toNat / s.interval.toNat % (s.epochLength.toNat / s.interval.toNat) %
        r.members.length]? = some k := by
  rw [leader, slotIndex_of_dvd h]
  simp only [bind, Except.bind]
  split
  · rename_i hr
    simp [List.length_eq_zero_iff.mp hr]
  · rename_i hr
    have hlt := Nat.mod_lt (slot.toNat / s.interval.toNat %
      (s.epochLength.toNat / s.interval.toNat)) (Nat.pos_of_ne_zero hr)
    simp [List.getElem?_eq_getElem hlt]

theorem leader_of_empty {slot : Timestamp} (h : s.interval.toNat ∣ slot.toNat) {r : Roster}
    (hr : r.members = []) : s.leader slot r = .error .emptyRoster := by
  have hlength : r.members.length = 0 := by rw [hr, List.length_nil]
  rw [leader, slotIndex_of_dvd h]
  simp only [bind, Except.bind, dif_pos hlength]

/-- The times that are refused as unaligned are those that are no slots. -/
theorem leader_eq_unaligned_iff {t time : Timestamp} {r : Roster} :
    s.leader t r = .error (.unaligned time) ↔ time = t ∧ ¬s.interval.toNat ∣ t.toNat := by
  rw [leader]
  by_cases h : s.interval.toNat ∣ t.toNat
  · rw [slotIndex_of_dvd h]
    simp only [bind, Except.bind]
    split <;> simp [h]
  · rw [slotIndex_of_not_dvd h]
    simp only [bind, Except.bind, Except.error.injEq, ConsensusError.unaligned.injEq, h,
      not_false_eq_true, and_true]
    exact eq_comm

theorem toNat_slot {first j : Nat} (hfit : first + j * s.interval.toNat < UInt64.size) :
    (first + j * s.interval.toNat).toUInt64.toNat = first + j * s.interval.toNat :=
  UInt64.toNat_ofNat_of_lt' hfit

/-- Who leads the slot that comes `j` slots after another one. -/
theorem leader_slot_eq_ok_iff {first j : Nat} (hd : s.interval.toNat ∣ first)
    (hfit : first + j * s.interval.toNat < UInt64.size) {r : Roster} {k : PublicKey} :
    s.leader (first + j * s.interval.toNat).toUInt64 r = .ok k ↔
      r.members[(first / s.interval.toNat + j) % s.slotsPerEpoch % r.members.length]? =
        some k := by
  have hslot : s.interval.toNat ∣ (first + j * s.interval.toNat).toUInt64.toNat := by
    rw [toNat_slot hfit]
    exact Nat.dvd_add hd (Nat.dvd_mul_left _ _)
  rw [leader_eq_ok_iff hslot, toNat_slot hfit, Nat.add_mul_div_right _ _ s.interval_pos]
  rfl

end SlotConsensus.Schedule
