import SlotConsensus.Block.Basic
import SlotConsensus.Proofs.Node.Gate

/-! Production: a node whose settings change and whose clock may jump appends blocks to its chain,
each in the slot before the present time and only when the gate lets its producer through.  No run
of it stops for want of a block number, since every block has a slot of its own, and so the number
of a block is at most the number of its slot. -/

namespace SlotConsensus.Production

/-- What happens at a node: a setting, or an attempt to append a block. -/
inductive Act
  | set (setting : Node.Setting)
  | attempt (producer : PublicKey) (now : Timestamp) (body : List UInt8) (fee : UInt64)
  deriving DecidableEq

/-- A block that was appended, who produced it, and the roster at that time. -/
structure Minted where
  block : Block
  producer : PublicKey
  roster : Roster

/-- A node, and the last header of its chain. -/
structure State where
  node : Node
  head : Header

/-- What an act appends, and the state after it. -/
def step (s : State) : Act → Except Overflow (Option Minted × State)
  | .set setting => .ok (none, { s with node := s.node.set setting })
  | .attempt producer now body fee =>
    match s.node.checkProducer s.head.timestamp now producer with
    | .error _ => .ok (none, s)
    | .ok _ => do
      let block ← Block.child s.head (s.node.schedule.prevSlot now) body fee
      return (some ⟨block, producer, s.node.roster⟩, { s with head := block.header })

/-- What acts append one after the other, and the state after the last of them. -/
def run (s : State) : List Act → Except Overflow (List Minted × State)
  | [] => .ok ([], s)
  | act :: rest => do
    let (minted, after) ← step s act
    let (others, last) ← run after rest
    return (minted.toList ++ others, last)

/-! ### Chains that grow by a block a slot -/

/-- The block of `m` follows up `head` in a later slot that its producer leads. -/
structure Minted.Follows (schedule : Schedule) (head : Header) (m : Minted) : Prop where
  parentHash : m.block.header.parentHash = head.hash
  number : m.block.header.number.toNat = head.number.toNat + 1
  later : head.timestamp < m.block.header.timestamp
  aligned : schedule.interval.toNat ∣ m.block.header.timestamp.toNat
  leads : m.roster.members[m.block.header.timestamp.toNat / schedule.interval.toNat %
    (schedule.epochLength.toNat / schedule.interval.toNat) % m.roster.members.length]? =
      some m.producer

/-- The blocks lead from one header to another, each of them following up the one before it. -/
inductive Grown (schedule : Schedule) : Header → List Minted → Header → Prop
  | nil (head : Header) : Grown schedule head [] head
  | cons {head last : Header} {m : Minted} {rest : List Minted} :
      m.Follows schedule head → Grown schedule m.block.header rest last →
      Grown schedule head (m :: rest) last

theorem Grown.append {schedule : Schedule} {first middle last : Header} {ms ns : List Minted}
    (h1 : Grown schedule first ms middle) (h2 : Grown schedule middle ns last) :
    Grown schedule first (ms ++ ns) last := by
  induction h1 with
  | nil => exact h2
  | cons hm _ ih => exact .cons hm (ih h2)

/-- There are slots enough for all the blocks up to a header: its number is at most that of its
slot. -/
def Fits (schedule : Schedule) (head : Header) : Prop :=
  head.number.toNat * schedule.interval.toNat ≤ head.timestamp.toNat

theorem fits_genesis (schedule : Schedule) : Fits schedule Header.genesis := by
  simp [Fits, Header.genesis]

section Grown

variable {schedule : Schedule} {head last : Header} {ms : List Minted}

theorem Minted.Follows.fits {m : Minted} (h : m.Follows schedule head) (hf : Fits schedule head) :
    Fits schedule m.block.header := by
  obtain ⟨q, hq⟩ := h.aligned
  have hlt := UInt64.lt_iff_toNat_lt.mp h.later
  unfold Fits at hf ⊢
  rw [hq] at hlt ⊢
  have hnumber : head.number.toNat < q := by
    rw [Nat.mul_comm] at hlt
    exact Nat.lt_of_mul_lt_mul_right (Nat.lt_of_le_of_lt hf hlt)
  rw [h.number, Nat.mul_comm schedule.interval.toNat]
  exact Nat.mul_le_mul_right _ hnumber

theorem Grown.fits (h : Grown schedule head ms last) (hf : Fits schedule head) :
    Fits schedule last := by
  induction h with
  | nil => exact hf
  | cons hm _ ih => exact ih (hm.fits hf)

theorem Grown.later (h : Grown schedule head ms last) :
    ∀ m ∈ ms, head.timestamp < m.block.header.timestamp := by
  induction h with
  | nil => simp
  | cons hm _ ih =>
    intro n hn
    rcases List.mem_cons.mp hn with rfl | hn
    · exact hm.later
    · exact UInt64.lt_trans hm.later (ih n hn)

theorem Grown.pairwise (h : Grown schedule head ms last) :
    (head :: ms.map fun m => m.block.header).Pairwise fun a b => a.timestamp < b.timestamp := by
  refine List.pairwise_cons.mpr ⟨fun header hheader => ?_, ?_⟩
  · obtain ⟨m, hm, rfl⟩ := List.mem_map.mp hheader
    exact h.later m hm
  · induction h with
    | nil => exact List.Pairwise.nil
    | cons _ hrest ih =>
      refine List.pairwise_cons.mpr ⟨fun header hheader => ?_, ih⟩
      obtain ⟨m, hm, rfl⟩ := List.mem_map.mp hheader
      exact hrest.later m hm

/-- Each block follows up the header at its place, where `head` is at the first. -/
theorem Grown.follows (h : Grown schedule head ms last) (i : Nat) (hi : i < ms.length) :
    ∃ parent, (head :: ms.map fun m => m.block.header)[i]? = some parent ∧
      ms[i].Follows schedule parent := by
  induction h generalizing i with
  | nil => simp at hi
  | cons hm _ ih =>
    cases i with
    | zero => exact ⟨_, rfl, hm⟩
    | succ i => exact ih i (Nat.lt_of_succ_lt_succ hi)

theorem Grown.number (h : Grown schedule head ms last) (i : Nat) (hi : i < ms.length) :
    ms[i].block.header.number.toNat = head.number.toNat + i + 1 := by
  induction h generalizing i with
  | nil => simp at hi
  | cons hm _ ih =>
    cases i with
    | zero => exact hm.number
    | succ i =>
      have hnext := ih i (by simpa using hi)
      rw [hm.number] at hnext
      simp only [List.getElem_cons_succ]
      omega

end Grown

/-! ### Runs -/

/-- The block that a producer who passes the gate appends can be numbered, and follows up the
head. -/
theorem child_of_checkProducer {s : State} {producer : PublicKey} {now : Timestamp}
    (hf : Fits s.node.schedule s.head)
    (hp : s.node.checkProducer s.head.timestamp now producer = .ok ()) (body : List UInt8)
    (fee : UInt64) :
    ∃ block, Block.child s.head (s.node.schedule.prevSlot now) body fee = .ok block ∧
      Minted.Follows s.node.schedule s.head ⟨block, producer, s.node.roster⟩ := by
  obtain ⟨hd, hl⟩ := Node.checkProducer_eq_ok_iff.mp hp
  have hlater := Schedule.checkDeadline_eq_ok_iff.mp hd
  have hdvd := s.node.schedule.interval_dvd_prevSlot now
  -- The head has at most the number of its slot, and there is a slot after that.
  have hroom : s.head.number.toNat < 0xffffffffffffffff := by
    have hi := Nat.le_mul_of_pos_right s.head.number.toNat s.node.schedule.interval_pos
    have hlt := UInt64.lt_iff_toNat_lt.mp hlater
    have := (s.node.schedule.prevSlot now).toNat_lt
    unfold Fits at hf
    omega
  refine ⟨_, Block.child_of_lt hroom _ body fee, rfl, ?_, hlater, hdvd,
    (Schedule.leader_eq_ok_iff hdvd).mp hl⟩
  show (s.head.number + 1).toNat = s.head.number.toNat + 1
  rw [UInt64.toNat_add]
  exact Nat.mod_eq_of_lt (Nat.succ_lt_succ hroom)

/-- An act goes through, and what it appends follows up the head. -/
theorem step_grown {s : State} (hf : Fits s.node.schedule s.head) (act : Act) :
    ∃ minted after, step s act = .ok (minted, after) ∧
      after.node.schedule = s.node.schedule ∧
      Grown s.node.schedule s.head minted.toList after.head := by
  cases act with
  | set setting =>
    exact ⟨none, _, rfl, s.node.schedule_set setting, .nil _⟩
  | attempt producer now body fee =>
    cases hp : s.node.checkProducer s.head.timestamp now producer with
    | error e =>
      refine ⟨none, s, ?_, rfl, .nil _⟩
      simp only [step, hp]
    | ok _ =>
      obtain ⟨block, hblock, hfollows⟩ := child_of_checkProducer hf hp body fee
      refine ⟨some ⟨block, producer, s.node.roster⟩, { s with head := block.header }, ?_, rfl,
        .cons hfollows (.nil _)⟩
      simp only [step, hp, hblock]
      rfl

/-- A run goes through to its end, and all that it appends follows up the head. -/
theorem run_grown {s : State} (hf : Fits s.node.schedule s.head) (acts : List Act) :
    ∃ minted last, run s acts = .ok (minted, last) ∧
      Grown s.node.schedule s.head minted last.head := by
  induction acts generalizing s with
  | nil => exact ⟨[], s, rfl, .nil _⟩
  | cons act rest ih =>
    obtain ⟨minted, after, hstep, hschedule, hgrown⟩ := step_grown hf act
    have hfits := hgrown.fits hf
    rw [← hschedule] at hfits
    obtain ⟨others, last, hrun, hothers⟩ := ih hfits
    rw [hschedule] at hothers
    refine ⟨minted.toList ++ others, last, ?_, hgrown.append hothers⟩
    simp only [run, hstep, hrun, ok_bind]
    rfl

/-- Every run of production from the first header goes through, without a block number that does not
fit.  The headers of its chain are each later than the one before them.  Its blocks are in slots,
were produced by the leader of the slot by the roster of their time, count up from 1, and name the
hash of the header before them. -/
theorem run_one_block_per_slot (node : Node) (acts : List Act) :
    ∃ minted last, run ⟨node, Header.genesis⟩ acts = .ok (minted, last) ∧
      (Header.genesis :: minted.map fun m => m.block.header).Pairwise
        (fun a b => a.timestamp < b.timestamp) ∧
      ∀ (i : Nat) (hi : i < minted.length),
        let header := minted[i].block.header
        let members := minted[i].roster.members
        node.schedule.interval.toNat ∣ header.timestamp.toNat ∧
        members[header.timestamp.toNat / node.schedule.interval.toNat %
          (node.schedule.epochLength.toNat / node.schedule.interval.toNat) % members.length]? =
            some minted[i].producer ∧
        header.number.toNat = i + 1 ∧
        (Header.genesis :: minted.map fun m => m.block.header)[i]?.map Header.hash =
          some header.parentHash := by
  obtain ⟨minted, last, hrun, hgrown⟩ :=
    run_grown (s := ⟨node, Header.genesis⟩) (fits_genesis _) acts
  refine ⟨minted, last, hrun, hgrown.pairwise, fun i hi => ?_⟩
  obtain ⟨parent, hparent, hfollows⟩ := hgrown.follows i hi
  refine ⟨hfollows.aligned, hfollows.leads, ?_, ?_⟩
  · rw [hgrown.number i hi, show Header.genesis.number.toNat = 0 from rfl, Nat.zero_add]
  · rw [hparent, hfollows.parentHash]
    rfl

end SlotConsensus.Production
