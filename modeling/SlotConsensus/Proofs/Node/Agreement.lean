import SlotConsensus.Proofs.Node.Gate

/-! Nodes agree on the leader without talking to each other.  Two nodes that follow one schedule and
were last told to trust the same keys give the same answers at any two times with the same slot
before them, and at most one producer passes at either. -/

namespace SlotConsensus.Node

/-- Of all producers the node lets `k` through and nobody else, and itself only if it is `k`.  The
refusals name the slot and `k`. -/
structure AdmitsOnly (n : Node) (last now slot : Timestamp) (k : PublicKey) : Prop where
  others : ∀ p, p ≠ k → n.checkProducer last now p = .error (.wrongProducer slot k p)
  turn_iff : n.checkTurn last now = .ok () ↔ n.signer = k
  turn_others : n.signer ≠ k →
    n.checkTurn last now = .error (.wrongProducer slot k n.signer)

theorem admitsOnly_of_checkProducer {n : Node} {last now : Timestamp} {k : PublicKey}
    (h : n.checkProducer last now k = .ok ()) :
    n.AdmitsOnly last now (n.schedule.prevSlot now) k := by
  obtain ⟨hd, hl⟩ := checkProducer_eq_ok_iff.mp h
  have hothers : ∀ p, p ≠ k → n.checkProducer last now p =
      .error (.wrongProducer (n.schedule.prevSlot now) k p) := by
    intro p hp
    rw [checkProducer_of_leaderAt hd hl, if_neg hp.symm]
  refine ⟨hothers, ⟨fun hturn => ?_, fun hk => ?_⟩, hothers n.signer⟩
  · by_cases hk : n.signer = k
    · exact hk
    · rw [checkTurn, hothers _ hk] at hturn
      cases hturn
  · rw [checkTurn, hk]
    exact h

section Agreement

variable {a b : Node} {nowA nowB : Timestamp} (hs : a.schedule = b.schedule)
  (hslot : a.schedule.prevSlot nowA = a.schedule.prevSlot nowB)
include hs hslot

theorem checkDeadline_agrees (hA : 0 < nowA.toNat) (hB : 0 < nowB.toNat) (last : Timestamp) :
    a.checkDeadline last nowA = b.checkDeadline last nowB := by
  rw [checkDeadline, checkDeadline, ← hs]
  exact Schedule.checkDeadline_congr last hA hB hslot

theorem leaderAt_agrees (hr : a.roster = b.roster) : a.leaderAt nowA = b.leaderAt nowB := by
  rw [leaderAt, leaderAt, ← hs, ← hr, hslot]

theorem checkProducer_agrees (hA : 0 < nowA.toNat) (hB : 0 < nowB.toNat)
    (hr : a.roster = b.roster) (last : Timestamp) (p : PublicKey) :
    a.checkProducer last nowA p = b.checkProducer last nowB p := by
  rw [checkProducer, checkProducer, checkDeadline_agrees hs hslot hA hB,
    leaderAt_agrees hs hslot hr, ← hs, hslot]

end Agreement

/-- Two nodes with one schedule, whoever they are, whose rosters were last set to the same keys,
give the same answers at times after zero that have the same slot before them.  They let at most one
producer through, and refuse everybody else in the same words. -/
theorem gate_agreement (s : Schedule) (signerA signerB : PublicKey) (as bs : List Setting)
    (last nowA nowB : Timestamp) (hroster : lastRoster? as = lastRoster? bs) (hA : 1 ≤ nowA)
    (hB : 1 ≤ nowB) (hslot : s.prevSlot nowA = s.prevSlot nowB) :
    let a := (new signerA s).setAll as
    let b := (new signerB s).setAll bs
    a.checkDeadline last nowA = b.checkDeadline last nowB ∧
    a.leaderAt nowA = b.leaderAt nowB ∧
    (∀ p, a.checkProducer last nowA p = b.checkProducer last nowB p) ∧
    (∀ k k', a.checkProducer last nowA k = .ok () → a.checkProducer last nowA k' = .ok () →
      k = k') ∧
    ∀ k, a.checkProducer last nowA k = .ok () →
      a.AdmitsOnly last nowA (s.prevSlot nowA) k ∧ b.AdmitsOnly last nowB (s.prevSlot nowA) k := by
  intro a b
  have hsA : a.schedule = s := schedule_setAll _ _
  have hsB : b.schedule = s := schedule_setAll _ _
  have hs : a.schedule = b.schedule := hsA.trans hsB.symm
  have hr : a.roster = b.roster := by
    rw [roster_setAll, roster_setAll, hroster]
    rfl
  have hslot' : a.schedule.prevSlot nowA = a.schedule.prevSlot nowB := by rw [hsA, hslot]
  have hA' : 0 < nowA.toNat := UInt64.le_iff_toNat_le.mp hA
  have hB' : 0 < nowB.toNat := UInt64.le_iff_toNat_le.mp hB
  have hp := checkProducer_agrees hs hslot' hA' hB' hr last
  refine ⟨checkDeadline_agrees hs hslot' hA' hB' last, leaderAt_agrees hs hslot' hr, hp,
    fun k k' hk hk' => ?_, fun k hk => ⟨?_, ?_⟩⟩
  · have hl := (checkProducer_eq_ok_iff.mp hk).2
    rw [(checkProducer_eq_ok_iff.mp hk').2] at hl
    cases hl
    rfl
  · rw [← hsA]
    exact admitsOnly_of_checkProducer hk
  · rw [hslot, ← hsB]
    exact admitsOnly_of_checkProducer ((hp k).symm.trans hk)

/-- A key for examples, of one byte over and over. -/
def sampleKey (b : UInt8) : PublicKey := ⟨Octets.fill 33 b⟩

/-- Settings for examples, the last of which trusts three keys. -/
def sampleSettings : List Setting :=
  [.roster [sampleKey 9], .signer (sampleKey 2),
    .roster [sampleKey 1, sampleKey 2, sampleKey 1, sampleKey 3]]

/-- Two nodes in the last seconds of all, where there is no room for another slot: the second member
of the roster passes at both. -/
theorem gate_agreement_last_slot :
    lastRoster? sampleSettings = lastRoster? (sampleSettings.drop 2) ∧
    Schedule.standard.prevSlot 18446744073709551615 =
      Schedule.standard.prevSlot 18446744073709551611 ∧
    ((new (sampleKey 1) Schedule.standard).setAll sampleSettings).checkProducer
      18446744073709551600 18446744073709551615 (sampleKey 2) = .ok () ∧
    ((new (sampleKey 3) Schedule.standard).setAll (sampleSettings.drop 2)).AdmitsOnly
      18446744073709551600 18446744073709551611 18446744073709551610 (sampleKey 2) := by
  have hpass : ((new (sampleKey 1) Schedule.standard).setAll sampleSettings).checkProducer
      18446744073709551600 18446744073709551615 (sampleKey 2) = .ok () := by cbv
  obtain ⟨-, -, -, -, honly⟩ := gate_agreement Schedule.standard (sampleKey 1) (sampleKey 3)
    sampleSettings (sampleSettings.drop 2) 18446744073709551600 18446744073709551615
    18446744073709551611 (by decide) (by decide) (by decide) (by decide)
  exact ⟨by decide, by decide, hpass, (honly _ hpass).2⟩

end SlotConsensus.Node
