import Mathlib.Order.Bounds.Defs
import SlotConsensus.Proofs.Schedule.Deadline
import SlotConsensus.Proofs.Schedule.Epochs

/-! Slots on the whole range of times, up to the last second of it.  The slot before a time is the
greatest multiple of the interval before it.  The next slot is the least one that is not before it,
or the greatest one in the range where there is no such.  The words that these are computed with
hold the same values on the way as numbers without bound do, but for the one product that is tested
before it is used. -/

namespace SlotConsensus.Schedule

variable {s : Schedule}

/-! ### Bounds -/

theorem isGreatest_prevSlot {now : Timestamp} (hnow : 0 < now.toNat) :
    IsGreatest {m | s.interval.toNat ∣ m ∧ m < now.toNat} (s.prevSlot now).toNat := by
  constructor
  · have hpred := s.prevSlot_le_pred now
    exact ⟨s.interval_dvd_prevSlot now, by omega⟩
  · rintro m ⟨hm, hlt⟩
    exact le_prevSlot_of_dvd hm hlt

/-- There is a slot from a time on exactly when the last slot of all is not before it. -/
theorem slotWithin_range_iff {now : Timestamp} :
    s.SlotWithin now.toNat 0xffffffffffffffff ↔ now.toNat ≤ s.lastSlot.toNat := by
  constructor
  · rintro ⟨m, hm, hfirst, hlast⟩
    have hle := mt (lastSlot_lt_iff hm).mp (by omega)
    omega
  · intro h
    have hlt := s.lastSlot.toNat_lt
    exact ⟨_, s.interval_dvd_lastSlot, h, by omega⟩

theorem le_nextSlot {now : Timestamp} (h : now.toNat ≤ s.lastSlot.toNat) :
    now.toNat ≤ (s.nextSlot now).toNat := by
  have hle := s.min_le_nextSlot now
  rwa [Nat.min_eq_left h] at hle

theorem isLeast_nextSlot {now : Timestamp} (h : now.toNat ≤ s.lastSlot.toNat) :
    IsLeast {m | s.interval.toNat ∣ m ∧ now.toNat ≤ m} (s.nextSlot now).toNat := by
  constructor
  · exact ⟨s.interval_dvd_nextSlot now, le_nextSlot h⟩
  · rintro m ⟨hm, hle⟩
    exact nextSlot_le_of_dvd hm (Nat.le_trans (Nat.min_le_left _ _) hle)

theorem isGreatest_nextSlot {now : Timestamp} (h : s.lastSlot.toNat < now.toNat) :
    IsGreatest {m | s.interval.toNat ∣ m ∧ m ≤ 0xffffffffffffffff} (s.nextSlot now).toNat := by
  constructor
  · have hlt := (s.nextSlot now).toNat_lt
    exact ⟨s.interval_dvd_nextSlot now, by omega⟩
  · rintro m ⟨hm, hle⟩
    have hlast := mt (lastSlot_lt_iff hm).mp (by omega)
    have hnext := s.min_le_nextSlot now
    omega

/-! ### Times in order -/

theorem prevSlot_mono {a b : Timestamp} (h : a ≤ b) : s.prevSlot a ≤ s.prevSlot b := by
  rw [UInt64.le_iff_toNat_le] at h
  rw [UInt64.le_iff_toNat_le, toNat_prevSlot, toNat_prevSlot]
  exact Nat.mul_le_mul_right _ (Nat.div_le_div_right (by omega))

theorem nextSlot_mono {a b : Timestamp} (h : a ≤ b) : s.nextSlot a ≤ s.nextSlot b := by
  rw [UInt64.le_iff_toNat_le] at h
  have hle := s.min_le_nextSlot b
  rw [UInt64.le_iff_toNat_le]
  apply nextSlot_le_of_dvd (s.interval_dvd_nextSlot b)
  omega

/-- No slot lies from `now` up to the slot before the next one. -/
theorem prevSlot_nextSlot {now : Timestamp} (h : now ≤ s.nextSlot now) :
    s.prevSlot (s.nextSlot now) = s.prevSlot now := by
  have hge := prevSlot_mono h (s := s)
  rw [UInt64.le_iff_toNat_le] at hge
  have hle : (s.prevSlot (s.nextSlot now)).toNat ≤ (s.prevSlot now).toNat := by
    -- A slot that is not before `now` is not before the next one either.
    by_cases hlt : (s.prevSlot (s.nextSlot now)).toNat < now.toNat
    · exact le_prevSlot_of_dvd (s.interval_dvd_prevSlot _) hlt
    · have hnext : (s.nextSlot now).toNat ≤ (s.prevSlot (s.nextSlot now)).toNat :=
        nextSlot_le_of_dvd (s.interval_dvd_prevSlot _) (by omega)
      have hpred := s.prevSlot_le_pred (s.nextSlot now)
      omega
  exact UInt64.toNat_inj.mp (Nat.le_antisymm hle hge)

theorem exists_slotIndex_lt {slot : Timestamp} (h : s.interval.toNat ∣ slot.toNat) :
    ∃ index, s.slotIndex slot = .ok index ∧ index < s.epochLength / s.interval := by
  refine ⟨_, slotIndex_of_dvd h, ?_⟩
  apply UInt64.mod_lt
  rw [UInt64.lt_iff_toNat_lt, UInt64.toNat_div]
  exact slotsPerEpoch_pos

/-! ### Values on the way -/

/-- The number, if a word can hold it. -/
def inWord (n : Nat) : Option Nat := if n ≤ 0xffffffffffffffff then some n else none

/-- The quotient, if the divisor is not zero. -/
def quotient (n d : Nat) : Option Nat := if d = 0 then none else some (n / d)

/-- The remainder, if the divisor is not zero. -/
def remainder (n d : Nat) : Option Nat := if d = 0 then none else some (n % d)

/-- The slot before a time by numbers without bound, all of which a word can hold. -/
def exactPrevSlot (s : Schedule) (now : Nat) : Option Nat := do
  let count ← quotient (now - 1) s.interval.toNat
  inWord (count * s.interval.toNat)

/-- The next slot by numbers of which a word can hold all but one. -/
def exactNextSlot (s : Schedule) (now : Nat) : Option Nat := do
  let whole ← quotient now s.interval.toNat
  let rest ← remainder now s.interval.toNat
  let count ← inWord (whole + if rest = 0 then 0 else 1)
  match inWord (count * s.interval.toNat) with
  | some slot => some slot
  | none => do
    let slots ← quotient 0xffffffffffffffff s.interval.toNat
    inWord (slots * s.interval.toNat)

/-- The place of a slot in its epoch by numbers all of which a word can hold. -/
def exactSlotIndex (s : Schedule) (slot : Timestamp) : Option (Except ConsensusError Nat) := do
  let offset ← remainder slot.toNat s.epochLength.toNat
  let rest ← remainder offset s.interval.toNat
  if rest = 0 then
    let index ← quotient offset s.interval.toNat
    return .ok index
  else return .error (.unaligned slot)

theorem inWord_toNat (n : UInt64) : inWord n.toNat = some n.toNat := by
  have hlt := n.toNat_lt
  rw [inWord, if_pos (by omega)]

theorem quotient_interval (n : Nat) :
    quotient n s.interval.toNat = some (n / s.interval.toNat) := by
  rw [quotient, if_neg (Nat.ne_of_gt s.interval_pos)]

theorem remainder_interval (n : Nat) :
    remainder n s.interval.toNat = some (n % s.interval.toNat) := by
  rw [remainder, if_neg (Nat.ne_of_gt s.interval_pos)]

theorem remainder_epochLength (n : Nat) :
    remainder n s.epochLength.toNat = some (n % s.epochLength.toNat) := by
  rw [remainder, if_neg (Nat.ne_of_gt s.epochLength_pos)]

theorem exactPrevSlot_eq (now : Timestamp) :
    s.exactPrevSlot now.toNat = some (s.prevSlot now).toNat := by
  rw [exactPrevSlot, quotient_interval, Option.bind_eq_bind, Option.bind_some, ← toNat_prevSlot,
    inWord_toNat]

theorem exactNextSlot_eq (now : Timestamp) :
    s.exactNextSlot now.toNat = some (s.nextSlot now).toNat := by
  simp only [exactNextSlot, quotient_interval, remainder_interval, Option.bind_eq_bind,
    Option.bind_some, ← toNat_lastSlot, inWord_toNat]
  -- At zero the next slot is zero itself, not one interval past the slot before it.
  rcases eq_zero_or_pos now with rfl | hpos
  · rw [nextSlot_zero]
    simp [inWord]
  have hlt := now.toNat_lt
  have hle := Nat.div_le_self (now.toNat - 1) s.interval.toNat
  have hcount : inWord (now.toNat / s.interval.toNat +
      if now.toNat % s.interval.toNat = 0 then 0 else 1) =
        some ((now.toNat - 1) / s.interval.toNat + 1) := by
    rw [intervals_eq hpos, inWord, if_pos (by omega)]
  have hlast := lastSlot_lt_iff (Nat.dvd_add (s.interval_dvd_prevSlot now) (Nat.dvd_refl _))
  rw [hcount, Option.bind_some, Nat.succ_mul, ← toNat_prevSlot, toNat_nextSlot hpos, inWord]
  by_cases hfits : (s.prevSlot now).toNat + s.interval.toNat ≤ 0xffffffffffffffff
  · rw [if_pos hfits, Nat.min_eq_left (by omega)]
  · rw [if_neg hfits, Nat.min_eq_right (by omega)]

theorem exactSlotIndex_eq (slot : Timestamp) :
    s.exactSlotIndex slot = some ((s.slotIndex slot).map UInt64.toNat) := by
  simp only [exactSlotIndex, remainder_epochLength, remainder_interval, quotient_interval,
    Option.bind_eq_bind, Option.bind_some, slotIndex, ← UInt64.toNat_inj, UInt64.toNat_mod]
  by_cases h : slot.toNat % s.epochLength.toNat % s.interval.toNat = 0
  · simp [h, Except.map]
  · simp [h, Except.map]

/-- The slots around every time, up to the last second, are the multiples of the interval that they
should be, keep the order of the times, and have a place in their epoch.  All the numbers that they
are computed from fit in a word but the one product that is tested, and no divisor is zero. -/
theorem slots_exact (s : Schedule) :
    s.prevSlot 0 = 0 ∧
    (∀ now : Timestamp, 1 ≤ now →
      IsGreatest {m | s.interval.toNat ∣ m ∧ m < now.toNat} (s.prevSlot now).toNat) ∧
    (∀ now : Timestamp, s.SlotWithin now.toNat 0xffffffffffffffff →
      IsLeast {m | s.interval.toNat ∣ m ∧ now.toNat ≤ m} (s.nextSlot now).toNat) ∧
    (∀ now : Timestamp, ¬s.SlotWithin now.toNat 0xffffffffffffffff →
      IsGreatest {m | s.interval.toNat ∣ m ∧ m ≤ 0xffffffffffffffff} (s.nextSlot now).toNat) ∧
    (∀ a b, a ≤ b → s.prevSlot a ≤ s.prevSlot b ∧ s.nextSlot a ≤ s.nextSlot b) ∧
    (∀ now, now ≤ s.nextSlot now → s.prevSlot (s.nextSlot now) = s.prevSlot now) ∧
    (∀ now slot, slot = s.prevSlot now ∨ slot = s.nextSlot now →
      ∃ index, s.slotIndex slot = .ok index ∧ index < s.epochLength / s.interval) ∧
    (∀ time : Timestamp, s.exactPrevSlot time.toNat = some (s.prevSlot time).toNat ∧
      s.exactNextSlot time.toNat = some (s.nextSlot time).toNat ∧
      s.exactSlotIndex time = some ((s.slotIndex time).map UInt64.toNat)) := by
  refine ⟨?_, ?_, ?_, ?_, ?_, ?_, ?_, ?_⟩
  · simp [prevSlot]
  · intro now hnow
    exact isGreatest_prevSlot (UInt64.le_iff_toNat_le.mp hnow)
  · intro now hwithin
    exact isLeast_nextSlot (slotWithin_range_iff.mp hwithin)
  · intro now hnone
    exact isGreatest_nextSlot (Nat.not_le.mp (mt slotWithin_range_iff.mpr hnone))
  · intro a b h
    exact ⟨prevSlot_mono h, nextSlot_mono h⟩
  · intro now h
    exact prevSlot_nextSlot h
  · rintro now slot (rfl | rfl)
    · exact exists_slotIndex_lt (s.interval_dvd_prevSlot now)
    · exact exists_slotIndex_lt (s.interval_dvd_nextSlot now)
  · intro time
    exact ⟨exactPrevSlot_eq time, exactNextSlot_eq time, exactSlotIndex_eq time⟩

end SlotConsensus.Schedule
