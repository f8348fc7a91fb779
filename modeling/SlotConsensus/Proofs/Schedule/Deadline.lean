import SlotConsensus.Proofs.Schedule.Slots

/-! Deadlines against the slots themselves, which are all multiples of the interval and not only
those that are times.  A block may follow another exactly when some slot lies between the last block
and the present.  A block is refused as one of the future when some slot lies from the present up to
the last block.  In the rest of time after the last slot of all there is no next slot, and the last
slot stands in for it, so that there every refused block counts as one of the future. -/

namespace SlotConsensus.Schedule

variable {s : Schedule} {last now : Timestamp}

theorem checkDeadline_congr {a b : Timestamp} (last : Timestamp) (ha : 0 < a.toNat)
    (hb : 0 < b.toNat) (h : s.prevSlot a = s.prevSlot b) :
    s.checkDeadline last a = s.checkDeadline last b := by
  rw [checkDeadline, checkDeadline, nextSlot_congr ha hb h, h]

/-- A block may follow another exactly when the slot before the present time is a later one. -/
theorem checkDeadline_eq_ok_iff :
    s.checkDeadline last now = .ok () ↔ last < s.prevSlot now := by
  have hle := s.prevSlot_le_nextSlot now
  rw [UInt64.le_iff_toNat_le] at hle
  unfold checkDeadline
  simp only [UInt64.le_iff_toNat_le, UInt64.lt_iff_toNat_lt]
  split
  · simp
    omega
  · split
    · simp
      omega
    · simp
      omega

/-- Some slot is later than `last` and earlier than `now`. -/
def SlotBetween (s : Schedule) (last now : Nat) : Prop :=
  ∃ m, s.interval.toNat ∣ m ∧ last < m ∧ m < now

/-- Some slot is neither earlier than `first` nor later than `last`. -/
def SlotWithin (s : Schedule) (first last : Nat) : Prop :=
  ∃ m, s.interval.toNat ∣ m ∧ first ≤ m ∧ m ≤ last

theorem checkDeadline_eq_ok_iff_slotBetween :
    s.checkDeadline last now = .ok () ↔ s.SlotBetween last.toNat now.toNat :=
  checkDeadline_eq_ok_iff.trans lt_prevSlot_iff

/-- The next slot has come by the time of the last block exactly when there is a slot from `now`, or
from the last slot of all if that is earlier, up to the last block. -/
theorem nextSlot_le_iff :
    s.nextSlot now ≤ last ↔ s.SlotWithin (min now.toNat s.lastSlot.toNat) last.toNat := by
  rw [UInt64.le_iff_toNat_le]
  constructor
  · intro h
    exact ⟨_, s.interval_dvd_nextSlot now, s.min_le_nextSlot now, h⟩
  · rintro ⟨m, hm, hfirst, hlast⟩
    exact Nat.le_trans (nextSlot_le_of_dvd hm hfirst) hlast

theorem checkDeadline_eq_futureBlock_iff :
    s.checkDeadline last now = .error (.futureBlock last (s.nextSlot now)) ↔
      s.SlotWithin (min now.toNat s.lastSlot.toNat) last.toNat := by
  rw [← nextSlot_le_iff, checkDeadline]
  by_cases hnext : s.nextSlot now ≤ last
  · simp [hnext]
  · by_cases hprev : s.prevSlot now ≤ last
    · simp [hnext, hprev]
    · simp [hnext, hprev]

theorem checkDeadline_eq_occupiedSlot_iff :
    s.checkDeadline last now = .error (.occupiedSlot (s.prevSlot now)) ↔
      ¬s.SlotBetween last.toNat now.toNat ∧
        ¬s.SlotWithin (min now.toNat s.lastSlot.toNat) last.toNat := by
  rw [← nextSlot_le_iff, ← checkDeadline_eq_ok_iff_slotBetween, checkDeadline]
  by_cases hnext : s.nextSlot now ≤ last
  · simp [hnext]
  · by_cases hprev : s.prevSlot now ≤ last
    · simp [hnext, hprev]
    · simp [hnext, hprev]

/-- Without a slot between the last block and the present, one of the two refusals is given. -/
theorem checkDeadline_of_not_slotBetween (h : ¬s.SlotBetween last.toNat now.toNat) :
    ∃ e, (e = .futureBlock last (s.nextSlot now) ∨ e = .occupiedSlot (s.prevSlot now)) ∧
      s.checkDeadline last now = .error e := by
  by_cases hwithin : s.SlotWithin (min now.toNat s.lastSlot.toNat) last.toNat
  · exact ⟨_, .inl rfl, checkDeadline_eq_futureBlock_iff.mpr hwithin⟩
  · exact ⟨_, .inr rfl, checkDeadline_eq_occupiedSlot_iff.mpr ⟨h, hwithin⟩⟩

/-- A last block before the present is within reach of the slots from the present on, or from the
last slot of all on, exactly when it is not before the last slot of all. -/
theorem slotWithin_and_lt_iff :
    s.SlotWithin (min now.toNat s.lastSlot.toNat) last.toNat ∧ last < now ↔
      s.lastSlot ≤ last ∧ last < now := by
  rw [UInt64.le_iff_toNat_le, UInt64.lt_iff_toNat_lt]
  constructor
  · rintro ⟨⟨m, -, hfirst, hlast⟩, hnow⟩
    exact ⟨by omega, hnow⟩
  · rintro ⟨hlast, hnow⟩
    exact ⟨⟨_, s.interval_dvd_lastSlot, Nat.min_le_right _ _, hlast⟩, hnow⟩

/-- A block may follow when some slot lies between the last block and the present.  The last block
is taken for one of the future when some slot lies from the present, or from the last slot of all if
that is earlier, up to it, and for one in the slot before the present in all other cases.  One dated
before the present is taken for one of the future only in the rest of time after the last slot of
all. -/
theorem deadline_by_slots (s : Schedule) (last now : Timestamp) :
    (s.checkDeadline last now = .ok () ↔ s.SlotBetween last.toNat now.toNat) ∧
    (s.checkDeadline last now = .error (.futureBlock last (s.nextSlot now)) ↔
      s.SlotWithin (min now.toNat s.lastSlot.toNat) last.toNat) ∧
    (s.checkDeadline last now = .error (.occupiedSlot (s.prevSlot now)) ↔
      ¬s.SlotBetween last.toNat now.toNat ∧
        ¬s.SlotWithin (min now.toNat s.lastSlot.toNat) last.toNat) ∧
    (s.checkDeadline last now = .error (.futureBlock last (s.nextSlot now)) ∧ last < now ↔
      s.lastSlot ≤ last ∧ last < now) := by
  refine ⟨checkDeadline_eq_ok_iff_slotBetween, checkDeadline_eq_futureBlock_iff,
    checkDeadline_eq_occupiedSlot_iff, ?_⟩
  rw [checkDeadline_eq_futureBlock_iff]
  exact slotWithin_and_lt_iff

/-- With slots of ten seconds, a block in the last slot of all is taken for one of the future five
seconds later, when there is no slot from the present up to that block. -/
theorem past_block_taken_for_future :
    ¬∀ (s : Schedule) (last now : Timestamp),
      (s.checkDeadline last now = .ok () ↔ s.SlotBetween last.toNat now.toNat) ∧
      ((∃ next, s.checkDeadline last now = .error (.futureBlock last next)) ↔
        s.SlotWithin now.toNat last.toNat) ∧
      ((∃ prev, s.checkDeadline last now = .error (.occupiedSlot prev)) ↔
        ¬s.SlotBetween last.toNat now.toNat ∧ ¬s.SlotWithin now.toNat last.toNat) := by
  intro claim
  obtain ⟨-, hfuture, -⟩ := claim standard 18446744073709551610 18446744073709551615
  obtain ⟨m, -, hnow, hlast⟩ := hfuture.mp ⟨18446744073709551610, rfl⟩
  exact absurd (Nat.le_trans hnow hlast) (by decide)

end SlotConsensus.Schedule
