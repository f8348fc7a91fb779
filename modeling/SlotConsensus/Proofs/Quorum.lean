import Mathlib.Data.Finset.Card
import Mathlib.Order.Bounds.Defs
import SlotConsensus.Proofs.Except
import SlotConsensus.Quorum

/-! Quorums.  More than two thirds of the validators are in one, so two quorums of the same
validators share more than a third of them.  Smaller parts need not, so no smaller number would do,
and a quorum is still there when a third of the other validators stay silent. -/

namespace SlotConsensus

/-- The size of a quorum is defined for fewer than `2 ^ 63` validators. -/
theorem quorumSize_eq_ok_iff {n quorum : UInt64} :
    quorumSize n = .ok quorum ↔
      n.toNat < 0x8000000000000000 ∧ quorum.toNat = n.toNat * 2 / 3 + 1 := by
  have htwo : (2 : UInt64).toNat = 2 := rfl
  have hsize : ∀ twice : UInt64, twice.toNat = n.toNat * 2 →
      (twice / 3 + 1).toNat = n.toNat * 2 / 3 + 1 := by
    intro twice htwice
    have hlt := twice.toNat_lt
    rw [UInt64.toNat_add, UInt64.toNat_div, show (3 : UInt64).toNat = 3 from rfl,
      show (1 : UInt64).toNat = 1 from rfl, Nat.mod_eq_of_lt (by omega), htwice]
  constructor
  · intro h
    obtain ⟨twice, htwice, hquorum⟩ := bind_eq_ok_iff.mp h
    rw [Checked.mul_eq_ok_iff, htwo] at htwice
    have hlt := twice.toNat_lt
    refine ⟨by omega, ?_⟩
    rw [← Except.ok.inj hquorum]
    exact hsize twice htwice
  · rintro ⟨hn, hquorum⟩
    have htwice : (n * 2).toNat = n.toNat * 2 := by
      rw [UInt64.toNat_mul, htwo, Nat.mod_eq_of_lt (by omega)]
    have hmul : Checked.mul n 2 = .ok (n * 2) := by
      rw [Checked.mul_eq_ok_iff, htwo]
      exact htwice
    refine bind_eq_ok_iff.mpr ⟨n * 2, hmul, congrArg Except.ok ?_⟩
    apply UInt64.toNat_inj.mp
    rw [hsize _ htwice, hquorum]

/-- For more validators, the double of their number is no word. -/
theorem quorumSize_eq_error_iff {n : UInt64} {e : Overflow} :
    quorumSize n = .error e ↔ 0x8000000000000000 ≤ n.toNat ∧ e = .product := by
  have htwo : (2 : UInt64).toNat = 2 := rfl
  have hmul : Checked.mul n 2 = .error e ↔ 0x8000000000000000 ≤ n.toNat ∧ e = .product := by
    rw [Checked.mul_eq_error_iff, htwo]
    exact and_congr_left fun _ => by omega
  rw [← hmul, quorumSize]
  cases Checked.mul n 2 with
  | error cause => rfl
  | ok twice => simp

/-- A quorum is more than two thirds of the validators, and not more than all of them. -/
theorem quorum_bounds {n quorum : UInt64} (hpos : 0 < n.toNat) (h : quorumSize n = .ok quorum) :
    1 ≤ quorum.toNat ∧ quorum.toNat ≤ n.toNat ∧ 2 * n.toNat < 3 * quorum.toNat := by
  obtain ⟨-, hquorum⟩ := quorumSize_eq_ok_iff.mp h
  omega

theorem quorumSize_toUInt64 {n : Nat} (h : n < 0x8000000000000000) :
    ∃ quorum, quorumSize n.toUInt64 = .ok quorum ∧ quorum.toNat = n * 2 / 3 + 1 := by
  have hsize : UInt64.size = 0x10000000000000000 := rfl
  have hn : n.toUInt64.toNat = n := UInt64.toNat_ofNat_of_lt' (by omega)
  have hquorum : (n * 2 / 3 + 1).toUInt64.toNat = n * 2 / 3 + 1 :=
    UInt64.toNat_ofNat_of_lt' (by omega)
  refine ⟨(n * 2 / 3 + 1).toUInt64, quorumSize_eq_ok_iff.mpr ⟨?_, ?_⟩, hquorum⟩
  · rwa [hn]
  · rw [hn, hquorum]

section Shared

variable {α : Type} [DecidableEq α]

/-- Two parts of a set are together no larger than the set and what they share. -/
theorem card_add_card_le {whole a b : Finset α} (ha : a ⊆ whole) (hb : b ⊆ whole) :
    a.card + b.card ≤ whole.card + (a ∩ b).card := by
  rw [← Finset.card_union_add_card_inter]
  exact Nat.add_le_add_right (Finset.card_le_card (Finset.union_subset ha hb)) _

/-- The elements of a list that are in both of two other lists. -/
def shared (whole ks ls : List α) : List α := whole.filter fun a => a ∈ ks ∧ a ∈ ls

theorem length_add_length_le {whole ks ls : List α} (hwhole : whole.Nodup) (hks : ks.Nodup)
    (hls : ls.Nodup) (hk : ∀ a ∈ ks, a ∈ whole) (hl : ∀ a ∈ ls, a ∈ whole) :
    ks.length + ls.length ≤ whole.length + (shared whole ks ls).length := by
  have hinter : (shared whole ks ls).toFinset = ks.toFinset ∩ ls.toFinset := by
    ext a
    simp only [shared, List.mem_toFinset, List.mem_filter, decide_eq_true_eq, Finset.mem_inter]
    exact ⟨fun h => h.2, fun h => ⟨hk a h.1, h⟩⟩
  have hcard : ks.toFinset.card + ls.toFinset.card ≤
      whole.toFinset.card + (ks.toFinset ∩ ls.toFinset).card := by
    apply card_add_card_le
    · intro a ha
      exact List.mem_toFinset.mpr (hk a (List.mem_toFinset.mp ha))
    · intro a ha
      exact List.mem_toFinset.mpr (hl a (List.mem_toFinset.mp ha))
  have hshared : (shared whole ks ls).Nodup := hwhole.filter _
  rwa [← hinter, List.toFinset_card_of_nodup hks, List.toFinset_card_of_nodup hls,
    List.toFinset_card_of_nodup hwhole, List.toFinset_card_of_nodup hshared] at hcard

/-- Any two parts of the set with `size` members share more than a third of it. -/
def SharesThird (whole : Finset α) (size : Nat) : Prop :=
  ∀ a b, a ⊆ whole → b ⊆ whole → a.card = size → b.card = size → whole.card < 3 * (a ∩ b).card

/-- There are two parts of a set that share no more than they have to. -/
theorem exists_card_inter_eq {whole : Finset α} {size : Nat} (h : size ≤ whole.card) :
    ∃ a b, a ⊆ whole ∧ b ⊆ whole ∧ a.card = size ∧ b.card = size ∧
      (a ∩ b).card = 2 * size - whole.card := by
  obtain ⟨a, ha, hacard⟩ := Finset.exists_subset_card_eq h
  have hrest : (whole \ a).card = whole.card - size := by
    rw [Finset.card_sdiff_of_subset ha, hacard]
  -- The second part takes the members outside the first one, as far as they go.
  rcases Nat.le_total size (whole \ a).card with hfew | hmany
  · obtain ⟨b, hb, hbcard⟩ := Finset.exists_subset_card_eq hfew
    have hdisjoint : Disjoint a b := Finset.disjoint_of_subset_right hb Finset.disjoint_sdiff
    refine ⟨a, b, ha, hb.trans Finset.sdiff_subset, hacard, hbcard, ?_⟩
    rw [Finset.disjoint_iff_inter_eq_empty.mp hdisjoint, Finset.card_empty]
    omega
  · obtain ⟨b, hrestb, hb, hbcard⟩ :=
      Finset.exists_subsuperset_card_eq Finset.sdiff_subset hmany h
    have hinter : a ∩ b = b \ (whole \ a) := by
      ext x
      simp only [Finset.mem_inter, Finset.mem_sdiff, not_and, not_not]
      exact ⟨fun hx => ⟨hx.2, fun _ => hx.1⟩, fun hx => ⟨hx.2 (hb hx.1), hx.1⟩⟩
    refine ⟨a, b, ha, hb, hacard, hbcard, ?_⟩
    rw [hinter, Finset.card_sdiff_of_subset hrestb, hbcard, hrest]
    omega

theorem sharesThird_iff {whole : Finset α} {size : Nat} (hpos : 0 < whole.card) :
    SharesThird whole size ↔ 2 * whole.card < 3 * size := by
  constructor
  · intro hshares
    by_contra hsmall
    have hle : size ≤ whole.card := by omega
    obtain ⟨a, b, ha, hb, hacard, hbcard, hinter⟩ := exists_card_inter_eq hle
    have hlt := hshares a b ha hb hacard hbcard
    omega
  · intro hlarge a b ha hb hacard hbcard
    have hle := card_add_card_le ha hb
    omega

/-- Those who are not silent have a part of `size` members as long as there are so many of them. -/
theorem exists_part_iff {whole silent : Finset α} {size : Nat} (hsilent : silent ⊆ whole) :
    (∃ part, part ⊆ whole \ silent ∧ part.card = size) ↔ silent.card + size ≤ whole.card := by
  have hcard := Finset.card_sdiff_add_card_eq_card hsilent
  constructor
  · rintro ⟨part, hpart, rfl⟩
    have hle := Finset.card_le_card hpart
    omega
  · intro hle
    exact Finset.exists_subset_card_eq (by omega)

end Shared

/-- For up to `2 ^ 63 - 1` validators, a quorum has the smallest size for which any two parts of
them share more than a third, and it can do without a third of the validators other than one, but
not without more.  For more validators there is no quorum. -/
theorem quorumSize_least (n : UInt64) :
    (1 ≤ n.toNat → n.toNat < 0x8000000000000000 →
      ∃ quorum, quorumSize n = .ok quorum ∧ quorum.toNat = n.toNat - (n.toNat - 1) / 3 ∧
        ∀ (α : Type) [DecidableEq α] (whole : Finset α), whole.card = n.toNat →
          IsLeast {size | SharesThird whole size} quorum.toNat ∧
          ∀ silent, silent ⊆ whole →
            ((∃ part, part ⊆ whole \ silent ∧ part.card = quorum.toNat) ↔
              silent.card ≤ (n.toNat - 1) / 3)) ∧
    (0x8000000000000000 ≤ n.toNat → quorumSize n = .error .product) := by
  constructor
  · intro hpos hfits
    obtain ⟨quorum, hok, hquorum⟩ := quorumSize_toUInt64 hfits
    rw [show n.toNat.toUInt64 = n from UInt64.ofNat_toNat] at hok
    refine ⟨quorum, hok, by omega, ?_⟩
    intro α _ whole hwhole
    have hshares : ∀ size, SharesThird whole size ↔ 2 * n.toNat < 3 * size := by
      intro size
      rw [sharesThird_iff (by omega), hwhole]
    refine ⟨⟨(hshares _).mpr (by omega), ?_⟩, ?_⟩
    · intro size hsize
      have hlt := (hshares size).mp hsize
      omega
    · intro silent hsilent
      rw [exists_part_iff hsilent]
      omega
  · intro hlarge
    exact quorumSize_eq_error_iff.mpr ⟨hlarge, rfl⟩

/-- Three of four validators are a quorum, and it can do without one of them. -/
theorem quorumSize_least_four :
    quorumSize 4 = .ok 3 ∧ IsLeast {size | SharesThird (Finset.range 4) size} 3 ∧
      (∃ part, part ⊆ Finset.range 4 \ {2} ∧ part.card = 3) ∧
      quorumSize 0x8000000000000000 = .error .product := by
  obtain ⟨quorum, hok, hquorum, hleast⟩ := (quorumSize_least 4).1 (by decide) (by decide)
  obtain rfl : quorum = 3 := UInt64.toNat_inj.mp hquorum
  obtain ⟨hisLeast, hsilent⟩ := hleast Nat (Finset.range 4) (Finset.card_range 4)
  exact ⟨hok, hisLeast, (hsilent {2} (by decide)).mpr (by decide),
    (quorumSize_least 0x8000000000000000).2 (by decide)⟩

end SlotConsensus
