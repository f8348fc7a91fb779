import SlotConsensus.Proofs.Block.Lineage
import SlotConsensus.Proofs.Node.Gate
import SlotConsensus.Proofs.Quorum
import SlotConsensus.Proofs.Tracker.Pending

/-! Rounds of consensus among nodes that trust each other's keys in one order.  Once a slot has
passed since the last block, exactly one node may produce the next one.  All others let its block
through, every tracker takes it in, and when everybody has endorsed it there are as many endorsers
as nodes, which is a quorum. -/

namespace SlotConsensus

/-- The signer of a hash is recovered from the signature. -/
def CompactScheme.Recovers (c : CompactScheme) : Prop :=
  ∀ (key : c.Key) (hash : Hash), c.signer (c.sign key hash) hash = .ok (c.publicKey key)

namespace Round

variable {c : CompactScheme} {s : Schedule} {keys : List c.Key}

/-- The node of the holder of `key`, who trusts the holders of all the keys. -/
def node (c : CompactScheme) (s : Schedule) (keys : List c.Key) (key : c.Key) : Node :=
  (Node.new (c.publicKey key) s).setRoster (keys.map c.publicKey)

/-- At the time `now` it is the turn of the holder of `leader`, and of nobody else, to follow up a
block with the timestamp `last`, and in that slot all nodes let the leader's block through. -/
structure Leads (c : CompactScheme) (s : Schedule) (keys : List c.Key) (last now : Timestamp)
    (leader : c.Key) : Prop where
  mem : leader ∈ keys
  turn_iff : ∀ key ∈ keys, (node c s keys key).checkTurn last now = .ok () ↔ key = leader
  admits : ∀ key ∈ keys, ∀ later, s.prevSlot later = s.prevSlot now →
    (node c s keys key).checkProducer last later (c.publicKey leader) = .ok ()

/-- The block of the holder of `leader` shows who made it, gets into every tracker in which its hash
is not pending, and there counts all the holders as endorsers after the others have endorsed it in
any order. -/
structure Completes (c : CompactScheme) (keys : List c.Key) (leader : c.Key) (b : SignedBlock) :
    Prop where
  signer : b.signer (.ofCompact c) = .ok (c.publicKey leader)
  tracked : ∀ t : Tracker (SigningScheme.ofCompact c).signer, b.hash ∉ t.waiting →
    ∃ after, t.submit b = .ok (b.hash, after) ∧
      ∀ others, (c.publicKey leader :: others).Perm (keys.map c.publicKey) →
        (∀ o ∈ (after.run (others.map (.endorse b.hash))).1, o = .ok .done) ∧
        (after.run (others.map (.endorse b.hash))).2.endorserCount b.hash = .ok keys.length

/-! ### The leader -/

theorem members_node (hkeys : (keys.map c.publicKey).Nodup) (key : c.Key) :
    (node c s keys key).roster.members = keys.map c.publicKey := firsts_of_nodup hkeys

theorem exists_leaderAt (hkeys : (keys.map c.publicKey).Nodup) (hsome : 1 ≤ keys.length)
    (now : Timestamp) :
    ∃ leader ∈ keys, ∀ key, (node c s keys key).leaderAt now = .ok (c.publicKey leader) := by
  have hplace := Nat.mod_lt ((s.prevSlot now).toNat / s.interval.toNat %
    (s.epochLength.toNat / s.interval.toNat)) hsome
  obtain ⟨leader, hleader⟩ : ∃ leader, keys[_ % keys.length]? = some leader :=
    ⟨_, List.getElem?_eq_getElem hplace⟩
  refine ⟨leader, List.mem_of_getElem? hleader, ?_⟩
  intro key
  refine (Schedule.leader_eq_ok_iff (s.interval_dvd_prevSlot now)).mpr ?_
  rw [members_node hkeys, List.length_map, List.getElem?_map, hleader]
  rfl

theorem exists_leads (hkeys : (keys.map c.publicKey).Nodup) (hsome : 1 ≤ keys.length)
    {last now : Timestamp} (hslot : last < s.prevSlot now) :
    ∃ leader, Leads c s keys last now leader := by
  obtain ⟨leader, hmem, hleader⟩ := exists_leaderAt (s := s) hkeys hsome now
  have hpass : ∀ key p later, s.prevSlot later = s.prevSlot now →
      ((node c s keys key).checkProducer last later p = .ok () ↔ c.publicKey leader = p) := by
    intro key p later hlater
    have hdeadline : (node c s keys key).checkDeadline last later = .ok () :=
      Schedule.checkDeadline_eq_ok_iff.mpr (hlater ▸ hslot)
    have hsame : (node c s keys key).leaderAt later = .ok (c.publicKey leader) := by
      rw [← hleader key]
      show s.leader (s.prevSlot later) _ = s.leader (s.prevSlot now) _
      rw [hlater]
    rw [Node.checkProducer_eq_ok_iff, hsame, Except.ok.injEq]
    exact and_iff_right hdeadline
  refine ⟨leader, hmem, ?_, ?_⟩
  · intro key hkey
    rw [Node.checkTurn, hpass key _ now rfl]
    constructor
    · intro hsame
      exact (List.inj_on_of_nodup_map hkeys hmem hkey hsame).symm
    · rintro rfl
      rfl
  · intro key _ later hlater
    exact (hpass key _ later hlater).mpr rfl

/-! ### The block -/

theorem completes_of_signer (hkeys : (keys.map c.publicKey).Nodup) {leader : c.Key}
    {b : SignedBlock} (hbody : b.block.bodyMatches = true)
    (hsigner : b.signer (.ofCompact c) = .ok (c.publicKey leader)) : Completes c keys leader b := by
  refine ⟨hsigner, ?_⟩
  intro t hwaiting
  have hnone : t.pending[b.hash]? = none := by
    rw [← Option.not_isSome_iff_eq_none]
    exact fun hsome => hwaiting (Tracker.mem_waiting_iff.mpr hsome)
  obtain ⟨after, hsubmit, hendorse⟩ := Tracker.submit_endorse hbody hsigner hnone
  refine ⟨after, hsubmit, ?_⟩
  intro others hperm
  obtain ⟨hanswers, hlast⟩ := hendorse others (hperm.nodup_iff.mpr hkeys)
  refine ⟨hanswers, ?_⟩
  rw [← List.length_map (f := c.publicKey), ← hperm.length_eq]
  exact (Tracker.shows_of_some hlast).endorserCount

theorem signer_sign (hc : c.Recovers) (leader : c.Key) (block : Block) :
    (SignedBlock.sign (.ofCompact c) block leader).signer (.ofCompact c) =
      .ok (c.publicKey leader) := by
  show c.signer (Signature.ofCompact (c.sign leader block.hash)).toCompact block.hash =
    .ok (c.publicKey leader)
  rw [Signature.toCompact_ofCompact]
  exact hc leader block.hash

/-- A round among `n` nodes with different keys, for any `n` from 1 to `2 ^ 63 - 1`, on any head
that leaves a number for the next block, at any time such that a slot has passed since the head.  It
has one leader, whose signed block completes, and the `n` endorsers are a quorum. -/
theorem reaches_quorum (c : CompactScheme) (hc : c.Recovers) (s : Schedule) (keys : List c.Key)
    (hkeys : (keys.map c.publicKey).Nodup) (hsome : 1 ≤ keys.length)
    (hfits : keys.length < 0x8000000000000000) (head : Header)
    (hnumber : head.number.toNat < 0xffffffffffffffff) (now : Timestamp)
    (hslot : ∃ m, s.interval.toNat ∣ m ∧ head.timestamp.toNat < m ∧ m < now.toNat)
    (body : List UInt8) (fee : UInt64) :
    ∃ leader block, Leads c s keys head.timestamp now leader ∧
      Block.child head (s.prevSlot now) body fee = .ok block ∧
      Completes c keys leader (SignedBlock.sign (.ofCompact c) block leader) ∧
      ∃ quorum, quorumSize keys.length.toUInt64 = .ok quorum ∧ quorum.toNat ≤ keys.length := by
  obtain ⟨leader, hleads⟩ := exists_leads hkeys hsome (Schedule.lt_prevSlot_iff.mpr hslot)
  have hchild := Block.child_of_lt hnumber (s.prevSlot now) body fee
  have hbody := (Block.continues_of_child hchild).bodyMatches
  obtain ⟨quorum, hquorum, hsize⟩ := quorumSize_toUInt64 hfits
  refine ⟨leader, _, hleads, hchild, ?_, quorum, hquorum, by omega⟩
  exact completes_of_signer hkeys hbody (signer_sign hc leader _)

section Sample

/-- A key in place of a signature.  No number of a signature starts with 31 bytes of 255. -/
def written (k : PublicKey) : CompactSignature where
  numbers := ⟨List.replicate 31 255 ++ k.bytes.toList, by
    rw [List.length_append, List.length_replicate, Octets.length_toList]⟩
  recoveryId := 0

def written? (sig : CompactSignature) : Option PublicKey :=
  if sig.numbers.toList.take 31 = List.replicate 31 255 then
    (Octets.ofList? 33 (sig.numbers.toList.drop 31)).map PublicKey.mk
  else none

theorem written?_written (k : PublicKey) : written? (written k) = some k := by
  have htake : (List.replicate 31 255 ++ k.bytes.toList).take 31 = List.replicate 31 255 :=
    List.take_left' List.length_replicate
  have hdrop : (List.replicate 31 255 ++ k.bytes.toList).drop 31 = k.bytes.toList :=
    List.drop_left' List.length_replicate
  rw [written?, written, htake, if_pos rfl, hdrop, Octets.ofList?_toList]
  rfl

/-- The signatures of a scheme, with the key written in place of one that would not lead back to
it. -/
def guarded (c : CompactScheme) : CompactScheme where
  Key := c.Key
  publicKey := c.publicKey
  sign key hash :=
    if written? (c.sign key hash) = none ∧
        (c.signer (c.sign key hash) hash).toOption = some (c.publicKey key) then c.sign key hash
    else written (c.publicKey key)
  signer sig hash :=
    match written? sig with
    | some k => .ok k
    | none => c.signer sig hash

theorem recovers_guarded (c : CompactScheme) : (guarded c).Recovers := by
  intro key hash
  by_cases h : written? (c.sign key hash) = none ∧
    (c.signer (c.sign key hash) hash).toOption = some (c.publicKey key)
  · have hsign : (guarded c).sign key hash = c.sign key hash := if_pos h
    have hsigner : (guarded c).signer (c.sign key hash) hash = c.signer (c.sign key hash) hash := by
      simp only [guarded, h.1]
    rw [hsign, hsigner]
    cases hk : c.signer (c.sign key hash) hash with
    | error e => simp [hk, Except.toOption] at h
    | ok k =>
      rw [hk] at h
      exact congrArg Except.ok (Option.some.inj h.2)
  · have hsign : (guarded c).sign key hash = written (c.publicKey key) := if_neg h
    rw [hsign]
    simp only [guarded, written?_written]

def sampleScheme : CompactScheme := guarded .secp256k1

def sampleKeys : List Keypair :=
  [⟨1, .base, by decide +kernel⟩,
    ⟨2, ⟨0xc6047f9441ed7d6d3045406e95c07cd85c778e4b8cef3ca7abac09b95c709ee5,
      0x1ae168fea63dc339a3c58419466ceaeef7f632653266d0e1236431a950cfe52a⟩, by decide +kernel⟩,
    ⟨3, ⟨0xf9308a019258c31049344f85f89d5229b531c845836f99b08601f113bce036f9,
      0x388f7b0f632de8140fe337e62a37f3566500a99934c2231b6cb9fd7584b8e672⟩, by decide +kernel⟩]

/-- The head that leaves one number, in the last slot but one. -/
def sampleHead : Header :=
  { Header.genesis with number := 18446744073709551614, timestamp := 18446744073709551600 }

/-- The last round of all. -/
theorem reaches_quorum_last_slot :
    ∃ leader block, Leads sampleScheme .standard sampleKeys sampleHead.timestamp
        18446744073709551615 leader ∧
      Block.child sampleHead (Schedule.standard.prevSlot 18446744073709551615) [1, 2, 3] 10 =
        .ok block ∧
      Completes sampleScheme sampleKeys leader
        (SignedBlock.sign (.ofCompact sampleScheme) block leader) ∧
      ∃ quorum, quorumSize 3 = .ok quorum ∧ quorum.toNat ≤ 3 :=
  reaches_quorum sampleScheme (recovers_guarded _) .standard sampleKeys (by decide)
    (by decide) (by decide) sampleHead (by decide) 18446744073709551615
    ⟨18446744073709551610, by decide, by decide, by decide⟩ [1, 2, 3] 10

end Sample

end Round

end SlotConsensus
