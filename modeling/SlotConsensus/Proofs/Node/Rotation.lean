import SlotConsensus.Proofs.Config.Problems
import SlotConsensus.Proofs.Node.Gate

/-! Rotation.  The turns start anew with each epoch, so the members of the roster for whom there is
a slot in an epoch lead in every epoch, and those who come after them never lead.  A valid
configuration may have more keys than there are slots in an epoch. -/

namespace SlotConsensus

namespace Schedule

/-- All slots of the epoch come before the last second of all, so that each of them is the slot
before some time. -/
def Whole (s : Schedule) (epoch : Nat) : Prop :=
  ∀ slot, s.interval.toNat ∣ slot → slot / s.epochLength.toNat = epoch → slot < 0xffffffffffffffff

variable {s : Schedule}

/-- The first epoch is whole. -/
theorem whole_zero : s.Whole 0 := by
  intro slot hslot hzero
  have hlt := (Nat.div_eq_zero_iff_lt s.epochLength_pos).mp hzero
  have hsize := s.epochLength.toNat_lt
  omega

/-- A slot before the last second of all is the slot before the second after it. -/
theorem exists_prevSlot_eq {slot : Nat} (hslot : s.interval.toNat ∣ slot)
    (hlt : slot < 0xffffffffffffffff) : ∃ now, (s.prevSlot now).toNat = slot := by
  have hsize : UInt64.size = 0x10000000000000000 := rfl
  have hnow : (slot + 1).toUInt64.toNat = slot + 1 := UInt64.toNat_ofNat_of_lt' (by omega)
  refine ⟨(slot + 1).toUInt64, ?_⟩
  rw [toNat_prevSlot, hnow, Nat.add_sub_cancel, Nat.div_mul_cancel hslot]

end Schedule

namespace Node

variable {n : Node} {k : PublicKey} {i : Nat}

/-- There is a time at which `k` leads, in a slot of the epoch. -/
def LeadsIn (n : Node) (epoch : Nat) (k : PublicKey) : Prop :=
  ∃ now, (n.schedule.prevSlot now).toNat / n.schedule.epochLength.toNat = epoch ∧
    n.leaderAt now = .ok k

/-- A member for whom there is a slot in an epoch leads in every whole epoch. -/
theorem leadsIn_of_lt (hk : n.roster.members[i]? = some k) (hi : i < n.schedule.slotsPerEpoch)
    {epoch : Nat} (hepoch : n.schedule.Whole epoch) : n.LeadsIn epoch k := by
  have hslot := Schedule.slot_div_epochLength hi epoch
  obtain ⟨now, hnow⟩ := Schedule.exists_prevSlot_eq (Nat.dvd_mul_left _ _)
    (hepoch _ (Nat.dvd_mul_left _ _) hslot)
  refine ⟨now, by rw [hnow, hslot], leaderAt_eq_ok_iff.mpr ?_⟩
  have hlength : i < n.roster.members.length := (List.getElem?_eq_some_iff.mp hk).1
  rw [hnow, Nat.mul_div_cancel _ n.schedule.interval_pos, Nat.add_mul_mod_self_right,
    Nat.mod_eq_of_lt hi, Nat.mod_eq_of_lt hlength, hk]

/-- There is a slot in an epoch for every member who ever leads. -/
theorem lt_slotsPerEpoch_of_leaderAt (hk : n.roster.members[i]? = some k) {now : Timestamp}
    (hl : n.leaderAt now = .ok k) : i < n.schedule.slotsPerEpoch := by
  have hi : i < n.roster.members.length := (List.getElem?_eq_some_iff.mp hk).1
  have hplace := (List.getElem?_inj hi n.roster.nodup).mp (hk.trans (leaderAt_eq_ok_iff.mp hl).symm)
  rw [hplace]
  exact Nat.lt_of_le_of_lt (Nat.mod_le _ _) (Nat.mod_lt _ Schedule.slotsPerEpoch_pos)

/-- Everybody leads in every whole epoch exactly when an epoch has a slot for each member. -/
theorem forall_leadsIn_iff :
    (∀ k ∈ n.roster.members, ∀ epoch, n.schedule.Whole epoch → n.LeadsIn epoch k) ↔
      n.roster.members.length ≤ n.schedule.slotsPerEpoch := by
  constructor
  · intro hall
    refine Nat.le_of_not_lt fun hplace => ?_
    obtain ⟨now, -, hl⟩ := hall _ (List.getElem_mem hplace) 0 Schedule.whole_zero
    exact Nat.lt_irrefl _ (lt_slotsPerEpoch_of_leaderAt (List.getElem?_eq_getElem hplace) hl)
  · intro hle k hk epoch hepoch
    obtain ⟨i, hi, rfl⟩ := List.mem_iff_getElem.mp hk
    exact leadsIn_of_lt (List.getElem?_eq_getElem hi) (Nat.lt_of_lt_of_le hi hle) hepoch

theorem validators_eq_ok_iff {ks : List PublicKey} :
    n.roster.validators = .ok ks ↔ n.roster.members ≠ [] ∧ n.roster.members = ks := by
  unfold Roster.validators Roster.isEmpty
  cases n.roster.members <;> simp

/-- Of the validators of a valid configuration, those who come before the number of slots of an
epoch lead in every whole epoch, and the others never lead.  So all of them lead in every whole
epoch exactly when there is a slot for each of them. -/
theorem leads_in_every_epoch_iff_fits (c : Config) (signer : PublicKey)
    (hc : c.validate = .ok ()) :
    ∃ n, ofConfig c signer = .ok n ∧ ∀ ks, n.roster.validators = .ok ks →
      (∀ i k, ks[i]? = some k →
        (i < c.epochLength.toNat / c.interval.toNat →
          ∀ epoch, n.schedule.Whole epoch → n.LeadsIn epoch k) ∧
        (c.epochLength.toNat / c.interval.toNat ≤ i → ∀ now, n.leaderAt now ≠ .ok k)) ∧
      ((∀ k ∈ ks, ∀ epoch, n.schedule.Whole epoch → n.LeadsIn epoch k) ↔
        ks.length ≤ c.epochLength.toNat / c.interval.toNat) := by
  obtain ⟨⟨s, hs⟩, -, -, keys, hkeys⟩ := Config.validate_eq_ok_iff.mp hc
  refine ⟨_, ofConfig_eq_ok_iff.mpr ⟨hc, s, keys, hs, hkeys, rfl⟩, ?_⟩
  generalize hn : (new signer s).setRoster keys = n
  intro ks hks
  obtain ⟨-, rfl⟩ := validators_eq_ok_iff.mp hks
  have hslots : c.epochLength.toNat / c.interval.toNat = n.schedule.slotsPerEpoch := by
    obtain ⟨hinterval, hlength⟩ := Schedule.ofLengths_eq_ok_iff.mp hs
    rw [← hn, ← hinterval, ← hlength]
    rfl
  rw [hslots]
  refine ⟨fun i k hk => ⟨fun hi epoch hepoch => leadsIn_of_lt hk hi hepoch,
    fun hi now hl => ?_⟩, forall_leadsIn_iff⟩
  exact Nat.not_lt.mpr hi (lt_slotsPerEpoch_of_leaderAt hk hl)

/-! ### More keys than slots -/

section Sample

/-- Two keys, and epochs of one slot. -/
def crowded : Config where
  interval := 1
  epochLength := 1
  maxValidators := 21
  trustNodes := ["0279be667ef9dcbbac55a06295ce870b07029bfcdb2dce28d959f2815b16f81798",
    "02c6047f9441ed7d6d3045406e95c07cd85c778e4b8cef3ca7abac09b95c709ee5"]

def crowdedKeys : List PublicKey :=
  [.ofPoint .base,
    .ofPoint ⟨0xc6047f9441ed7d6d3045406e95c07cd85c778e4b8cef3ca7abac09b95c709ee5,
      0x1ae168fea63dc339a3c58419466ceaeef7f632653266d0e1236431a950cfe52a⟩]

theorem validators_crowded : crowded.validators = .ok crowdedKeys := by
  refine Config.decodeNodes_eq_ok_iff.mpr (Config.map_ofHex_of_denotes
    (.cons ⟨rfl, _, .inl rfl, ?_⟩ (.cons ⟨rfl, _, .inl rfl, ?_⟩ .nil)))
  · rw [String.toList_ofList]
    decide
  · rw [String.toList_ofList]
    decide

theorem validate_crowded : crowded.validate = .ok () :=
  Config.validate_eq_ok_iff.mpr ⟨⟨⟨1, 1, by decide, by decide, by decide⟩, rfl⟩, by decide,
    by decide, crowdedKeys, validators_crowded⟩

def crowdedNode : Node :=
  (new (.ofPoint .base) ⟨1, 1, by decide, by decide, by decide⟩).setRoster crowdedKeys

theorem ofConfig_crowded : ofConfig crowded (.ofPoint .base) = .ok crowdedNode :=
  ofConfig_eq_ok_iff.mpr ⟨validate_crowded, _, _, rfl, validators_crowded, rfl⟩

theorem members_crowdedNode : crowdedNode.roster.members = crowdedKeys :=
  firsts_of_nodup (by decide)

theorem validators_crowdedNode : crowdedNode.roster.validators = .ok crowdedKeys :=
  validators_eq_ok_iff.mpr ⟨by rw [members_crowdedNode]; simp [crowdedKeys], members_crowdedNode⟩

/-- With one slot in an epoch the first of two members leads in every whole epoch, and the second
never leads. -/
theorem leads_in_every_epoch_iff_fits_crowded :
    crowded.validate = .ok () ∧ ofConfig crowded (.ofPoint .base) = .ok crowdedNode ∧
    (∀ epoch, crowdedNode.schedule.Whole epoch → crowdedNode.LeadsIn epoch crowdedKeys[0]) ∧
    ∀ now, crowdedNode.leaderAt now ≠ .ok crowdedKeys[1] := by
  obtain ⟨n, hn, hleads⟩ :=
    leads_in_every_epoch_iff_fits crowded (.ofPoint .base) validate_crowded
  obtain rfl := Except.ok.inj (hn.symm.trans ofConfig_crowded)
  obtain ⟨hplaces, -⟩ := hleads crowdedKeys validators_crowdedNode
  exact ⟨validate_crowded, hn, (hplaces 0 _ rfl).1 (by decide), (hplaces 1 _ rfl).2 (by decide)⟩

/-- Not every validator of a valid configuration leads in every whole epoch. -/
theorem valid_roster_may_not_fit :
    ¬∀ (c : Config) (signer : PublicKey), c.validate = .ok () →
      ∀ n, ofConfig c signer = .ok n → ∀ ks, n.roster.validators = .ok ks →
        ∀ k ∈ ks, ∀ epoch, n.schedule.Whole epoch → n.LeadsIn epoch k := by
  intro claim
  have hall := claim crowded _ validate_crowded crowdedNode ofConfig_crowded crowdedKeys
    validators_crowdedNode
  rw [← members_crowdedNode] at hall
  have hfits := forall_leadsIn_iff.mp hall
  rw [members_crowdedNode] at hfits
  exact absurd hfits (by decide)

end Sample

end Node

end SlotConsensus
