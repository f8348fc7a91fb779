import SlotConsensus.Proofs.Config.Valid
import SlotConsensus.Proofs.Node.Agreement

/-! The whole answer of the gate, at every node, for every last block, at every time and for every
producer.  There has to be a slot between the last block and the present, then a roster, and then
the producer has to be the member of the roster whose turn it is.  The first of these that fails is
the one that is reported. -/

namespace SlotConsensus.Node

/-! ### What a node was told -/

/-- The node was made with the schedule, and it was last told to trust `keys` and to be `signer`. -/
inductive Told (schedule : Schedule) : List PublicKey → PublicKey → Node → Prop
  | new (signer : PublicKey) : Told schedule [] signer (new signer schedule)
  | ofConfig {c : Config} {keys : List PublicKey} {signer : PublicKey} {n : Node} :
      c.schedule = .ok schedule → c.validators = .ok keys → ofConfig c signer = .ok n →
      Told schedule keys signer n
  | setRoster {old : List PublicKey} {signer : PublicKey} {n : Node} (keys : List PublicKey) :
      Told schedule old signer n → Told schedule keys signer (n.setRoster keys)
  | setSigner {keys : List PublicKey} {old : PublicKey} {n : Node} (signer : PublicKey) :
      Told schedule keys old n → Told schedule keys signer (n.setSigner signer)

/-- What a node was told is all that there is to it. -/
theorem Told.eq {schedule : Schedule} {keys : List PublicKey} {signer : PublicKey} {n : Node}
    (h : Told schedule keys signer n) : n = ⟨signer, schedule, Roster.ofList keys⟩ := by
  induction h with
  | new signer => rfl
  | ofConfig hschedule hkeys hn =>
    obtain ⟨-, s, ks, hs, hks, rfl⟩ := ofConfig_eq_ok_iff.mp hn
    obtain rfl := Except.ok.inj (hs.symm.trans hschedule)
    obtain rfl := Except.ok.inj (hks.symm.trans hkeys)
    rfl
  | setRoster keys _ ih =>
    rw [ih]
    rfl
  | setSigner signer _ ih =>
    rw [ih]
    rfl

/-! ### The rows of the table -/

section Rows

variable {n : Node} {last now : Timestamp} {p : PublicKey}

/-- Without a slot between the last block and the present the deadline decides, whoever asks. -/
theorem checkProducer_of_no_slot
    (h : ¬n.schedule.SlotBetween last.toNat now.toNat) (p : PublicKey) :
    ∃ e, (e = .futureBlock last (n.schedule.nextSlot now) ∨
        e = .occupiedSlot (n.schedule.prevSlot now)) ∧
      n.checkDeadline last now = .error e ∧ n.checkProducer last now p = .error e := by
  obtain ⟨e, he, hd⟩ := Schedule.checkDeadline_of_not_slotBetween h
  refine ⟨e, he, hd, ?_⟩
  simp only [checkProducer, checkDeadline, hd]
  rfl

theorem checkDeadline_of_slot (h : n.schedule.SlotBetween last.toNat now.toNat) :
    n.checkDeadline last now = .ok () :=
  Schedule.checkDeadline_eq_ok_iff_slotBetween.mpr h

theorem checkProducer_of_empty (h : n.schedule.SlotBetween last.toNat now.toNat)
    (hr : n.roster.members = []) (p : PublicKey) :
    n.checkProducer last now p = .error .emptyRoster := by
  have hl : n.leaderAt now = .error .emptyRoster :=
    Schedule.leader_of_empty (n.schedule.interval_dvd_prevSlot now) hr
  simp only [checkProducer, checkDeadline_of_slot h, hl, ok_bind]
  rfl

/-- With a slot between the last block and the present, the member whose turn it is passes, and
everybody else is told who that is. -/
theorem checkProducer_of_members (h : n.schedule.SlotBetween last.toNat now.toNat)
    (hr : n.roster.members ≠ []) (p : PublicKey) :
    ∃ k, n.roster.members[(n.schedule.prevSlot now).toNat / n.schedule.interval.toNat %
        n.schedule.slotsPerEpoch % n.roster.members.length]? = some k ∧
      n.checkProducer last now p =
        if k = p then .ok () else .error (.wrongProducer (n.schedule.prevSlot now) k p) := by
  have hk := List.getElem?_eq_getElem (Nat.mod_lt
    ((n.schedule.prevSlot now).toNat / n.schedule.interval.toNat % n.schedule.slotsPerEpoch)
    (List.length_pos_iff.mpr hr))
  exact ⟨_, hk, checkProducer_of_leaderAt (checkDeadline_of_slot h) (leaderAt_eq_ok_iff.mpr hk) p⟩

theorem checkProducer_eq_ok_iff_turn :
    n.checkProducer last now p = .ok () ↔
      n.schedule.SlotBetween last.toNat now.toNat ∧ n.roster.members ≠ [] ∧
        n.roster.members[(n.schedule.prevSlot now).toNat / n.schedule.interval.toNat %
          n.schedule.slotsPerEpoch % n.roster.members.length]? = some p := by
  rw [checkProducer_eq_ok_iff, leaderAt_eq_ok_iff, checkDeadline,
    Schedule.checkDeadline_eq_ok_iff_slotBetween]
  refine and_congr_right fun _ => ⟨fun hturn => ⟨?_, hturn⟩, And.right⟩
  exact List.ne_nil_of_mem (List.mem_of_getElem? hturn)

/-- The slot before the present is always one, and there is nothing to wait for. -/
theorem checkProducer_ne_unaligned_and_ne_awaited (p : PublicKey) (time : Timestamp) :
    n.checkProducer last now p ≠ .error (.unaligned time) ∧
      n.checkProducer last now p ≠ .error (.awaitedBlock time) := by
  by_cases hslot : n.schedule.SlotBetween last.toNat now.toNat
  · by_cases hr : n.roster.members = []
    · rw [checkProducer_of_empty hslot hr]
      simp
    · obtain ⟨k, -, h⟩ := checkProducer_of_members hslot hr p
      rw [h]
      split <;> simp
  · obtain ⟨e, rfl | rfl, -, h⟩ := checkProducer_of_no_slot hslot p <;> simp [h]

end Rows

/-- At a node that was last told to trust `keys` and to be `signer`, a producer passes exactly when
some slot lies between the last block and the present, there is a roster, and it is the producer's
turn.  Without such a slot the answer is that of the deadline, without a roster it is that there is
none, and to all but the member whose turn it is it names that member and the slot.  The answer is
never that the time is no slot or that a block is awaited.  The node's own turn is that of
`signer`. -/
theorem gate_decision_table {s : Schedule} {keys : List PublicKey} {signer : PublicKey} {n : Node}
    (hn : Told s keys signer n) (last now : Timestamp) (p : PublicKey) :
    let slot := s.prevSlot now
    let members := firsts keys
    let turn := members[slot.toNat / s.interval.toNat % s.slotsPerEpoch % members.length]?
    (n.checkProducer last now p = .ok () ↔
      s.SlotBetween last.toNat now.toNat ∧ members ≠ [] ∧ turn = some p) ∧
    (¬s.SlotBetween last.toNat now.toNat →
      ∃ e, (e = .futureBlock last (s.nextSlot now) ∨ e = .occupiedSlot slot) ∧
        n.checkDeadline last now = .error e ∧ n.checkProducer last now p = .error e) ∧
    (s.SlotBetween last.toNat now.toNat → members = [] →
      n.checkProducer last now p = .error .emptyRoster) ∧
    (s.SlotBetween last.toNat now.toNat → members ≠ [] → ∃ k, turn = some k ∧
      n.checkProducer last now p =
        if k = p then .ok () else .error (.wrongProducer slot k p)) ∧
    (∀ time, n.checkProducer last now p ≠ .error (.unaligned time) ∧
      n.checkProducer last now p ≠ .error (.awaitedBlock time)) ∧
    n.checkTurn last now = n.checkProducer last now signer := by
  have hs : n.schedule = s := by rw [hn.eq]
  have hmembers : n.roster.members = firsts keys := by rw [hn.eq, Roster.ofList]
  have hsigner : n.signer = signer := by rw [hn.eq]
  subst hs hsigner
  rw [← hmembers]
  exact ⟨checkProducer_eq_ok_iff_turn, fun hslot => checkProducer_of_no_slot hslot p,
    fun hslot hr => checkProducer_of_empty hslot hr p,
    fun hslot hr => checkProducer_of_members hslot hr p,
    checkProducer_ne_unaligned_and_ne_awaited p, rfl⟩

/-- A node that is told whom to trust and who it is, in the last slot of all: it is the turn of the
second of three members, and the node, which is the third, is told so. -/
theorem gate_decision_table_last_slot :
    let keys := [sampleKey 1, sampleKey 2, sampleKey 1, sampleKey 3]
    let n := ((new (sampleKey 9) Schedule.standard).setRoster keys).setSigner (sampleKey 3)
    Told Schedule.standard keys (sampleKey 3) n ∧
    n.checkProducer 18446744073709551609 18446744073709551615 (sampleKey 2) = .ok () ∧
    n.checkTurn 18446744073709551609 18446744073709551615 =
      .error (.wrongProducer 18446744073709551610 (sampleKey 2) (sampleKey 3)) := by
  intro keys n
  have hn : Told Schedule.standard keys (sampleKey 3) n := .setSigner _ (.setRoster _ (.new _))
  have hslot : Schedule.standard.SlotBetween (18446744073709551609 : UInt64).toNat
      (18446744073709551615 : UInt64).toNat :=
    ⟨18446744073709551610, by decide, by decide, by decide⟩
  have hturn : (firsts keys)[(Schedule.standard.prevSlot 18446744073709551615).toNat /
      Schedule.standard.interval.toNat % Schedule.standard.slotsPerEpoch %
        (firsts keys).length]? = some (sampleKey 2) := by decide
  obtain ⟨hok, -, -, -, -, -⟩ := gate_decision_table hn 18446744073709551609
    18446744073709551615 (sampleKey 2)
  obtain ⟨-, -, -, hrow, -, hown⟩ := gate_decision_table hn 18446744073709551609
    18446744073709551615 (sampleKey 3)
  refine ⟨hn, hok.mpr ⟨hslot, by decide, hturn⟩, ?_⟩
  obtain ⟨k, hk, hanswer⟩ := hrow hslot (by decide)
  obtain rfl := Option.some.inj (hk.symm.trans hturn)
  rw [hown, hanswer]
  rfl

end SlotConsensus.Node
