import SlotConsensus.Schedule

/-! The arithmetic of slots in numbers without bound.  The slot before a time after zero is the last
multiple of the interval before it, and the next slot is one interval later unless that leaves the
range of times.  So the slot before a time decides the next slot. -/

namespace SlotConsensus.Schedule

variable (s : Schedule)

/-! ### The slots around a time -/

theorem toNat_prevSlot (now : Timestamp) :
    (s.prevSlot now).toNat = (now.toNat - 1) / s.interval.toNat * s.interval.toNat := by
  have hpred : (if now = 0 then 0 else now - 1).toNat = now.toNat - 1 := by
    by_cases h : now = 0
    · simp [h]
    · have hpos : 0 < now.toNat := Nat.pos_of_ne_zero fun h0 => h (UInt64.toNat_inj.mp h0)
      have hle : 1 ≤ now := UInt64.le_iff_toNat_le.mpr hpos
      rw [if_neg h, UInt64.toNat_sub_of_le _ _ hle]
      rfl
  have hle := Nat.div_mul_le_self (now.toNat - 1) s.interval.toNat
  have hlt := now.toNat_lt
  rw [prevSlot, UInt64.toNat_mul, UInt64.toNat_div, hpred, Nat.mod_eq_of_lt (by omega)]

theorem toNat_lastSlot :
    s.lastSlot.toNat = 0xffffffffffffffff / s.interval.toNat * s.interval.toNat := by
  have hle := Nat.div_mul_le_self 0xffffffffffffffff s.interval.toNat
  rw [lastSlot, UInt64.toNat_mul, UInt64.toNat_div,
    show (0xffffffffffffffff : UInt64).toNat = 0xffffffffffffffff from rfl,
    Nat.mod_eq_of_lt (by omega)]

theorem interval_dvd_prevSlot (now : Timestamp) :
    s.interval.toNat ∣ (s.prevSlot now).toNat := by
  rw [toNat_prevSlot]
  exact Nat.dvd_mul_left _ _

theorem prevSlot_le_lastSlot (now : Timestamp) : s.prevSlot now ≤ s.lastSlot := by
  have hlt := now.toNat_lt
  rw [UInt64.le_iff_toNat_le, toNat_prevSlot, toNat_lastSlot]
  exact Nat.mul_le_mul_right _ (Nat.div_le_div_right (by omega))

theorem interval_dvd_lastSlot : s.interval.toNat ∣ s.lastSlot.toNat := by
  rw [toNat_lastSlot]
  exact Nat.dvd_mul_left _ _

theorem le_prevSlot_add_interval (now : Timestamp) :
    now.toNat ≤ (s.prevSlot now).toNat + s.interval.toNat := by
  have hlt := Nat.lt_div_mul_add (a := now.toNat - 1) s.interval_pos
  rw [toNat_prevSlot]
  omega

theorem prevSlot_le_pred (now : Timestamp) : (s.prevSlot now).toNat ≤ now.toNat - 1 := by
  rw [toNat_prevSlot]
  exact Nat.div_mul_le_self _ _

variable {s}

theorem le_prevSlot_of_dvd {now : Timestamp} {m : Nat} (hm : s.interval.toNat ∣ m)
    (h : m < now.toNat) : m ≤ (s.prevSlot now).toNat := by
  have hle := s.le_prevSlot_add_interval now
  exact Nat.le_of_lt_add_of_dvd (by omega) hm (s.interval_dvd_prevSlot now)

/-- The slot before `now` is later than `last` exactly when some slot before `now` is. -/
theorem lt_prevSlot_iff {last now : Timestamp} :
    last < s.prevSlot now ↔
      ∃ m, s.interval.toNat ∣ m ∧ last.toNat < m ∧ m < now.toNat := by
  rw [UInt64.lt_iff_toNat_lt]
  constructor
  · intro h
    have hle := s.prevSlot_le_pred now
    exact ⟨_, s.interval_dvd_prevSlot now, h, by omega⟩
  · rintro ⟨m, hm, hlast, hnow⟩
    exact Nat.lt_of_lt_of_le hlast (le_prevSlot_of_dvd hm hnow)

/-- No multiple of the interval after the last slot is a time. -/
theorem lastSlot_lt_iff {m : Nat} (h : s.interval.toNat ∣ m) :
    s.lastSlot.toNat < m ↔ 0xffffffffffffffff < m := by
  obtain ⟨q, rfl⟩ := h
  have hi := s.interval_pos
  rw [toNat_lastSlot, Nat.mul_comm s.interval.toNat q, Nat.mul_lt_mul_right hi,
    Nat.div_lt_iff_lt_mul hi]

/-- The number of intervals up to a time after zero, the one that it ends in counted whole. -/
theorem intervals_eq {now i : Nat} (hnow : 0 < now) :
    (now / i + if now % i = 0 then 0 else 1) = (now - 1) / i + 1 := by
  obtain ⟨n, rfl⟩ : ∃ n, now = n + 1 := ⟨now - 1, by omega⟩
  rw [Nat.add_sub_cancel, Nat.succ_div]
  by_cases hd : i ∣ n + 1
  · rw [if_pos hd, if_pos (Nat.mod_eq_zero_of_dvd hd)]
  · rw [if_neg hd, if_neg fun h => hd (Nat.dvd_of_mod_eq_zero h)]

/-- The next slot after a time after zero is one interval past the slot before it, or the last slot
of all. -/
theorem toNat_nextSlot {now : Timestamp} (hnow : 0 < now.toNat) :
    (s.nextSlot now).toNat = min ((s.prevSlot now).toNat + s.interval.toNat) s.lastSlot.toNat := by
  have hi := s.interval_pos
  have hcount : (now / s.interval + if now % s.interval = 0 then 0 else 1).toNat =
      (now.toNat - 1) / s.interval.toNat + 1 := by
    have hle := Nat.div_le_self (now.toNat - 1) s.interval.toNat
    have hlt := now.toNat_lt
    have hrest : (if now % s.interval = 0 then (0 : UInt64) else 1).toNat =
        if now.toNat % s.interval.toNat = 0 then 0 else 1 := by
      by_cases h : now.toNat % s.interval.toNat = 0 <;>
        simp [h, ← UInt64.toNat_inj, UInt64.toNat_mod]
    rw [UInt64.toNat_add, UInt64.toNat_div, hrest, intervals_eq hnow,
      Nat.mod_eq_of_lt (by omega)]
  have hnext : ((now.toNat - 1) / s.interval.toNat + 1) * s.interval.toNat =
      (s.prevSlot now).toNat + s.interval.toNat := by
    rw [toNat_prevSlot, Nat.succ_mul]
  have hlast := lastSlot_lt_iff (Nat.dvd_add (s.interval_dvd_prevSlot now) (Nat.dvd_refl _))
  simp only [nextSlot]
  split
  -- The product fits: it is a time, so the last slot of all is not before it.
  · rename_i slot hslot
    rw [Checked.mul_eq_ok_iff, hcount, hnext] at hslot
    have := slot.toNat_lt
    omega
  · rename_i hslot
    rw [Checked.mul_eq_error_iff, hcount, hnext] at hslot
    omega

theorem nextSlot_zero : s.nextSlot 0 = 0 := by
  have h : Checked.mul 0 s.interval = .ok 0 :=
    Checked.mul_eq_ok_iff.mpr (Nat.zero_mul s.interval.toNat).symm
  simp [nextSlot, h]

theorem eq_zero_or_pos (now : Timestamp) : now = 0 ∨ 0 < now.toNat :=
  (Nat.eq_zero_or_pos now.toNat).imp_left fun h => UInt64.toNat_inj.mp h

section NextSlot

variable (s) (now : Timestamp)

theorem prevSlot_le_nextSlot : s.prevSlot now ≤ s.nextSlot now := by
  rcases eq_zero_or_pos now with rfl | hpos
  · rw [nextSlot_zero, prevSlot]
    simp
  · have hlast := UInt64.le_iff_toNat_le.mp (s.prevSlot_le_lastSlot now)
    rw [UInt64.le_iff_toNat_le, toNat_nextSlot hpos]
    omega

theorem interval_dvd_nextSlot : s.interval.toNat ∣ (s.nextSlot now).toNat := by
  rcases eq_zero_or_pos now with rfl | hpos
  · rw [nextSlot_zero]
    exact Nat.dvd_zero _
  · rw [toNat_nextSlot hpos]
    rcases Nat.le_total ((s.prevSlot now).toNat + s.interval.toNat) s.lastSlot.toNat with h | h
    · rw [Nat.min_eq_left h]
      exact Nat.dvd_add (s.interval_dvd_prevSlot now) (Nat.dvd_refl _)
    · rw [Nat.min_eq_right h]
      exact s.interval_dvd_lastSlot

/-- The next slot is not before `now`, or it is the last slot of all. -/
theorem min_le_nextSlot : min now.toNat s.lastSlot.toNat ≤ (s.nextSlot now).toNat := by
  rcases eq_zero_or_pos now with rfl | hpos
  · exact Nat.le_trans (Nat.min_le_left _ _) (Nat.zero_le _)
  · have hle := s.le_prevSlot_add_interval now
    rw [toNat_nextSlot hpos]
    omega

variable {s now}

/-- A slot is not before the next one if it is not before `now`, or not before the last of all. -/
theorem nextSlot_le_of_dvd {m : Nat} (hm : s.interval.toNat ∣ m)
    (h : min now.toNat s.lastSlot.toNat ≤ m) : (s.nextSlot now).toNat ≤ m := by
  rcases eq_zero_or_pos now with rfl | hpos
  · rw [nextSlot_zero]
    exact Nat.zero_le m
  · rw [toNat_nextSlot hpos]
    by_cases hle : now.toNat ≤ m
    · have hpred := s.prevSlot_le_pred now
      have hnext : (s.prevSlot now).toNat + s.interval.toNat ≤ m :=
        Nat.le_of_lt_add_of_dvd (by omega)
          (Nat.dvd_add (s.interval_dvd_prevSlot now) (Nat.dvd_refl _)) hm
      omega
    · omega

end NextSlot

/-- Two times after zero with the same slot before them have the same next slot. -/
theorem nextSlot_congr {a b : Timestamp} (ha : 0 < a.toNat) (hb : 0 < b.toNat)
    (h : s.prevSlot a = s.prevSlot b) : s.nextSlot a = s.nextSlot b := by
  apply UInt64.toNat_inj.mp
  rw [toNat_nextSlot ha, toNat_nextSlot hb, h]

end SlotConsensus.Schedule
