import SlotConsensus.Node
import SlotConsensus.Proofs.Except
import SlotConsensus.Proofs.Quorum

/-! Valid configurations.  A configuration is valid when its lengths make a schedule, its texts are
keys, and there are no more of them than its limit, which is not zero.  A node can be made from the
valid ones only, and has the schedule and the keys of its configuration.  A valid limit may be too
large for the size of its quorum to be computed. -/

namespace SlotConsensus

theorem Schedule.ofLengths_eq_ok_iff {interval epochLength : UInt64} {s : Schedule} :
    ofLengths interval epochLength = .ok s ↔
      s.interval = interval ∧ s.epochLength = epochLength := by
  constructor
  · intro h
    unfold ofLengths at h
    split at h
    · cases h
    · split at h
      · cases h
        exact ⟨rfl, rfl⟩
      · cases h
  · rintro ⟨rfl, rfl⟩
    rw [ofLengths, dif_neg (Nat.pos_iff_ne_zero.mp s.interval_pos),
      dif_pos ⟨s.epochLength_pos, s.interval_dvd⟩]

theorem Config.validate_eq_ok_iff {c : Config} :
    c.validate = .ok () ↔
      (∃ s, c.schedule = .ok s) ∧ c.maxValidators ≠ 0 ∧
        c.trustNodes.length ≤ c.maxValidators.toNat ∧ ∃ keys, c.validators = .ok keys := by
  constructor
  · intro h
    obtain ⟨s, hs, -⟩ := bind_eq_ok_iff.mp h
    simp only [validate, hs, ok_bind] at h
    by_cases hmax : c.maxValidators = 0
    · simp only [if_pos hmax] at h
      cases h
    · by_cases hnodes : c.maxValidators.toNat < c.trustNodes.length
      · simp only [if_neg hmax, if_pos hnodes] at h
        cases h
      · simp only [if_neg hmax, if_neg hnodes] at h
        obtain ⟨keys, hkeys, -⟩ := bind_eq_ok_iff.mp h
        exact ⟨⟨s, hs⟩, hmax, Nat.not_lt.mp hnodes, keys, hkeys⟩
  · rintro ⟨⟨s, hs⟩, hmax, hnodes, keys, hkeys⟩
    simp only [validate, hs, hkeys, if_neg hmax, if_neg (Nat.not_lt.mpr hnodes), ok_bind]
    rfl

theorem Node.ofConfig_eq_ok_iff {c : Config} {signer : PublicKey} {n : Node} :
    ofConfig c signer = .ok n ↔
      c.validate = .ok () ∧ ∃ s keys, c.schedule = .ok s ∧ c.validators = .ok keys ∧
        n = (new signer s).setRoster keys := by
  constructor
  · intro h
    obtain ⟨⟨⟩, hvalid, h⟩ := bind_eq_ok_iff.mp h
    obtain ⟨s, hs, h⟩ := bind_eq_ok_iff.mp h
    obtain ⟨keys, hkeys, h⟩ := bind_eq_ok_iff.mp h
    exact ⟨hvalid, s, keys, hs, hkeys, (Except.ok.inj h).symm⟩
  · rintro ⟨hvalid, s, keys, hs, hkeys, rfl⟩
    simp only [ofConfig, hvalid, hs, hkeys, ok_bind]
    rfl

/-! ### The quorum of a full roster -/

namespace Config

theorem maxValidators_pos {c : Config} (h : c.validate = .ok ()) :
    0 < c.maxValidators.toNat := by
  obtain ⟨-, hmax, -⟩ := validate_eq_ok_iff.mp h
  exact Nat.pos_of_ne_zero fun hzero => hmax (UInt64.toNat_inj.mp hzero)

/-- A valid configuration has a quorum, which is more than two thirds of its limit and not more than
the limit, if the limit is less than `2 ^ 63`.  From there on its double overflows. -/
theorem safeSize_of_valid (c : Config) (h : c.validate = .ok ()) :
    (c.maxValidators.toNat < 0x8000000000000000 →
      ∃ quorum, c.safeSize = .ok quorum ∧ 1 ≤ quorum.toNat ∧
        quorum.toNat ≤ c.maxValidators.toNat ∧
        2 * c.maxValidators.toNat < 3 * quorum.toNat) ∧
    (0x8000000000000000 ≤ c.maxValidators.toNat → c.safeSize = .error .product) := by
  have hpos := maxValidators_pos h
  constructor
  · intro hfits
    cases hsize : c.safeSize with
    | error e => exact absurd (quorumSize_eq_error_iff.mp hsize).1 (Nat.not_le.mpr hfits)
    | ok quorum => exact ⟨quorum, rfl, quorum_bounds hpos hsize⟩
  · intro hlarge
    exact quorumSize_eq_error_iff.mpr ⟨hlarge, rfl⟩

/-- The standard configuration with another limit. -/
def withLimit (n : UInt64) : Config := { standard with maxValidators := n }

theorem validate_withLimit {n : UInt64} (hn : n ≠ 0) : (withLimit n).validate = .ok () := by
  have hschedule : (withLimit n).schedule = .ok Schedule.standard :=
    Schedule.ofLengths_eq_ok_iff.mpr ⟨rfl, rfl⟩
  exact validate_eq_ok_iff.mpr ⟨⟨_, hschedule⟩, hn, Nat.zero_le _, [], rfl⟩

/-- The largest limit with a quorum, and the one after it. -/
theorem safeSize_of_valid_boundary :
    (withLimit 0x7fffffffffffffff).validate = .ok () ∧
    (∃ quorum, (withLimit 0x7fffffffffffffff).safeSize = .ok quorum ∧
      quorum.toNat ≤ 0x7fffffffffffffff ∧ 0xfffffffffffffffe < 3 * quorum.toNat) ∧
    (withLimit 0x8000000000000000).validate = .ok () ∧
    (withLimit 0x8000000000000000).safeSize = .error .product := by
  have hlargest := validate_withLimit (show (0x7fffffffffffffff : UInt64) ≠ 0 by decide)
  have hafter := validate_withLimit (show (0x8000000000000000 : UInt64) ≠ 0 by decide)
  obtain ⟨quorum, hsize, -, hle, hlt⟩ := (safeSize_of_valid _ hlargest).1 (by decide)
  exact ⟨hlargest, ⟨quorum, hsize, hle, hlt⟩, hafter,
    (safeSize_of_valid _ hafter).2 (by decide)⟩

/-- A configuration for up to `2 ^ 63` validators is valid and has no quorum. -/
theorem valid_without_safeSize :
    ¬∀ c : Config, c.validate = .ok () →
      ∃ quorum, c.safeSize = .ok quorum ∧ 1 ≤ quorum.toNat ∧
        quorum.toNat ≤ c.maxValidators.toNat ∧
        2 * c.maxValidators.toNat < 3 * quorum.toNat := by
  intro claim
  obtain ⟨quorum, hquorum, -⟩ := claim (withLimit 0x8000000000000000)
    (validate_withLimit (by decide))
  have herror : (withLimit 0x8000000000000000).safeSize = .error .product :=
    quorumSize_eq_error_iff.mpr ⟨by decide, rfl⟩
  cases herror.symm.trans hquorum

end Config

end SlotConsensus
