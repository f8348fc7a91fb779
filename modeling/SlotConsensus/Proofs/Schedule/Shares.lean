import Mathlib.Data.Int.CardIntervalMod
import SlotConsensus.Proofs.Schedule.Epochs

/-! Shares.  The slots of an epoch are dealt out to the members of the roster in turn, so everybody
leads the same number of them, and the members at whose places the last round stops short lead one
less than those before them. -/

namespace SlotConsensus.Schedule

/-- The slots of an epoch, from its first one on. -/
def epochSlots (s : Schedule) (epoch : Nat) : List Timestamp :=
  s.slotsFrom (epoch * s.epochLength.toNat) s.slotsPerEpoch

/-- All slots of the epoch are times. -/
def InRange (s : Schedule) (epoch : Nat) : Prop :=
  ∀ slot, s.interval.toNat ∣ slot → slot / s.epochLength.toNat = epoch → slot < UInt64.size

/-- The number of slots of the epoch that `k` leads. -/
def share (s : Schedule) (r : Roster) (epoch : Nat) (k : PublicKey) : Nat :=
  (s.epochSlots epoch).countP fun slot => s.leader slot r = .ok k

variable {s : Schedule} {r : Roster} {epoch : Nat} {k k' : PublicKey}

/-! ### The slots of an epoch -/

theorem epoch_slot_eq (i : Nat) :
    epoch * s.epochLength.toNat + i * s.interval.toNat =
      (i + epoch * s.slotsPerEpoch) * s.interval.toNat := by
  rw [Nat.add_mul, Nat.mul_assoc, slotsPerEpoch_mul_interval, Nat.add_comm]

theorem InRange.slot_lt (h : s.InRange epoch) {i : Nat} (hi : i < s.slotsPerEpoch) :
    epoch * s.epochLength.toNat + i * s.interval.toNat < UInt64.size := by
  rw [epoch_slot_eq]
  exact h _ (Nat.dvd_mul_left _ _) (slot_div_epochLength hi epoch)

theorem length_epochSlots : (s.epochSlots epoch).length = s.slotsPerEpoch := by
  simp [epochSlots, slotsFrom]

theorem nodup_epochSlots (h : s.InRange epoch) : (s.epochSlots epoch).Nodup := by
  refine List.nodup_range.map_on fun i hi j hj heq => ?_
  have hslots := congrArg UInt64.toNat heq
  rw [toNat_slot (h.slot_lt (List.mem_range.mp hi)),
    toNat_slot (h.slot_lt (List.mem_range.mp hj))] at hslots
  exact Nat.eq_of_mul_eq_mul_right s.interval_pos (Nat.add_left_cancel hslots)

/-- The listed slots of an epoch are all the slots of the epoch. -/
theorem mem_epochSlots_iff (h : s.InRange epoch) {slot : Timestamp} :
    slot ∈ s.epochSlots epoch ↔
      s.interval.toNat ∣ slot.toNat ∧ slot.toNat / s.epochLength.toNat = epoch := by
  constructor
  · intro hslot
    obtain ⟨i, hi, rfl⟩ := List.mem_map.mp hslot
    have hi := List.mem_range.mp hi
    rw [toNat_slot (h.slot_lt hi), epoch_slot_eq]
    exact ⟨Nat.dvd_mul_left _ _, slot_div_epochLength hi epoch⟩
  -- The slot with the number `q` is at the place that `q` leaves modulo the slots of an epoch.
  · rintro ⟨⟨q, hq⟩, hepoch⟩
    rw [hq, ← slotsPerEpoch_mul_interval, Nat.mul_comm, Nat.mul_div_mul_right _ _ s.interval_pos]
      at hepoch
    have hi := Nat.mod_lt q (slotsPerEpoch_pos (s := s))
    refine List.mem_map.mpr ⟨q % s.slotsPerEpoch, List.mem_range.mpr hi, ?_⟩
    apply UInt64.toNat_inj.mp
    rw [toNat_slot (h.slot_lt hi), epoch_slot_eq, hq, ← hepoch, Nat.mul_comm (q / _),
      Nat.mod_add_div, Nat.mul_comm]

/-! ### Counting -/

/-- The slot at the place `i` of an epoch is led by the member at that place, modulo the size of
the roster. -/
theorem leader_epoch_slot_eq_ok_iff (h : s.InRange epoch) {i : Nat} (hi : i < s.slotsPerEpoch) :
    s.leader (epoch * s.epochLength.toNat + i * s.interval.toNat).toUInt64 r = .ok k ↔
      r.members[i % r.members.length]? = some k := by
  have hfirst : s.interval.toNat ∣ epoch * s.epochLength.toNat :=
    Nat.dvd_mul_left_of_dvd s.interval_dvd epoch
  have hplace : epoch * s.epochLength.toNat / s.interval.toNat = epoch * s.slotsPerEpoch :=
    Nat.mul_div_assoc epoch s.interval_dvd
  rw [leader_slot_eq_ok_iff hfirst (h.slot_lt hi), hplace, Nat.mul_add_mod_self_right,
    Nat.mod_eq_of_lt hi]

/-- A member leads the slots of the rounds that are whole, and one more if the last round comes to
its place. -/
theorem share_eq (h : s.InRange epoch) {i : Nat} (hk : r.members[i]? = some k) :
    s.share r epoch k = s.slotsPerEpoch / r.members.length +
      if i < s.slotsPerEpoch % r.members.length then 1 else 0 := by
  have hi : i < r.members.length := (List.getElem?_eq_some_iff.mp hk).1
  have hn : 0 < r.members.length := Nat.zero_lt_of_lt hi
  have hcount := Nat.count_modEq_card s.slotsPerEpoch hn i
  rw [Nat.mod_eq_of_lt hi] at hcount
  -- Both sides count places in the epoch: those whose leader is `k`, and those congruent to `i`.
  rw [← hcount, share, epochSlots, slotsFrom, List.countP_map, Nat.count]
  refine List.countP_congr fun j hj => ?_
  simp only [Function.comp_apply, decide_eq_true_eq]
  rw [leader_epoch_slot_eq_ok_iff h (List.mem_range.mp hj), ← hk,
    List.getElem?_inj (Nat.mod_lt j hn) r.nodup, Nat.ModEq, Nat.mod_eq_of_lt hi]

/-- Two members lead the same number of slots, or one leads one more. -/
theorem share_le_succ (h : s.InRange epoch) (hk : k ∈ r.members) (hk' : k' ∈ r.members) :
    s.share r epoch k ≤ s.share r epoch k' + 1 := by
  obtain ⟨i, hi⟩ := List.mem_iff_getElem?.mp hk
  obtain ⟨j, hj⟩ := List.mem_iff_getElem?.mp hk'
  rw [share_eq h hi, share_eq h hj]
  split <;> omega

/-- Rounds dealt out to `n` members, and one slot more to each of the first ones. -/
theorem sum_dealt (rounds slots n : Nat) :
    ((List.range n).map fun i => rounds + if i < slots then 1 else 0).sum =
      n * rounds + min n slots := by
  induction n with
  | zero => simp
  | succ n ih =>
    rw [List.range_succ, List.map_append, List.sum_append, ih, Nat.succ_mul]
    simp only [List.map_cons, List.map_nil, List.sum_cons, List.sum_nil]
    split <;> omega

/-- All slots of an epoch are dealt out. -/
theorem sum_share (h : s.InRange epoch) (hn : 1 ≤ r.members.length) :
    (r.members.map (s.share r epoch)).sum = s.slotsPerEpoch := by
  have hshares : r.members.map (s.share r epoch) = (List.range r.members.length).map fun i =>
      s.slotsPerEpoch / r.members.length +
        if i < s.slotsPerEpoch % r.members.length then 1 else 0 := by
    apply List.ext_getElem
    · simp
    · intro i hi hi'
      simp only [List.getElem_map, List.getElem_range]
      exact share_eq h (List.getElem?_eq_getElem _)
  have hrest := Nat.mod_lt s.slotsPerEpoch hn
  rw [hshares, sum_dealt, Nat.min_eq_right (Nat.le_of_lt hrest), Nat.div_add_mod]

/-- In an epoch whose slots are all times, the member at the place `i` of a roster leads one slot in
each whole round, and one more if the last round comes to its place.  So all slots are dealt out, no
two members differ by more than one slot, and to name a key again after its first place changes
nobody's share. -/
theorem shares_of_epoch (s : Schedule) (keys : List PublicKey)
    (hn : 1 ≤ (Roster.ofList keys).members.length) (epoch : Nat) (h : s.InRange epoch) :
    let r := Roster.ofList keys
    let n := r.members.length
    ((s.epochSlots epoch).Nodup ∧ (s.epochSlots epoch).length = s.slotsPerEpoch ∧
      ∀ slot, slot ∈ s.epochSlots epoch ↔
        s.interval.toNat ∣ slot.toNat ∧ slot.toNat / s.epochLength.toNat = epoch) ∧
    (∀ i k, r.members[i]? = some k → s.share r epoch k =
      s.slotsPerEpoch / n + if i < s.slotsPerEpoch % n then 1 else 0) ∧
    (r.members.map (s.share r epoch)).sum = s.slotsPerEpoch ∧
    (∀ k ∈ r.members, ∀ k' ∈ r.members, s.share r epoch k ≤ s.share r epoch k' + 1) ∧
    ∀ before after k, keys = before ++ k :: after → k ∈ before →
      s.share r epoch = s.share (Roster.ofList (before ++ after)) epoch := by
  intro r n
  refine ⟨⟨nodup_epochSlots h, length_epochSlots, fun _ => mem_epochSlots_iff h⟩,
    fun _ _ => share_eq h, sum_share h hn, fun _ hk _ hk' => share_le_succ h hk hk', ?_⟩
  rintro before after k rfl hk
  have hroster : r = Roster.ofList (before ++ after) :=
    Roster.ext (firsts_append_cons_of_mem hk)
  rw [hroster]

/-- Slots of three seconds in epochs of seven. -/
def sevenSlots : Schedule where
  interval := 3
  epochLength := 21
  interval_pos := by decide
  epochLength_pos := by decide
  interval_dvd := by decide

/-- In the last epoch of times, the first of three members leads three of seven slots and the last
of them two, although the second is named twice. -/
theorem shares_of_epoch_uneven :
    let keys : List PublicKey := [1, 2, 2, 3].map fun b => ⟨Octets.fill 33 b⟩
    let r := Roster.ofList keys
    1 ≤ r.members.length ∧ sevenSlots.InRange 878416384462359599 ∧
    sevenSlots.share r 878416384462359599 ⟨Octets.fill 33 1⟩ = 3 ∧
    sevenSlots.share r 878416384462359599 ⟨Octets.fill 33 3⟩ = 2 := by
  intro keys r
  have hn : 1 ≤ r.members.length := by decide
  have hrange : sevenSlots.InRange 878416384462359599 := by
    intro slot _ (hepoch : slot / 21 = 878416384462359599)
    show slot < 18446744073709551616
    omega
  obtain ⟨-, hshare, -⟩ := shares_of_epoch sevenSlots keys hn 878416384462359599 hrange
  have hfirst := hshare 0 ⟨Octets.fill 33 1⟩ (by decide)
  have hlast := hshare 2 ⟨Octets.fill 33 3⟩ (by decide)
  exact ⟨hn, hrange, hfirst.trans (by decide), hlast.trans (by decide)⟩

end SlotConsensus.Schedule
