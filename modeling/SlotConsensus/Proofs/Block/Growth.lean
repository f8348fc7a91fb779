import SlotConsensus.Block.Chain
import SlotConsensus.Proofs.Block.Commitment
import SlotConsensus.Proofs.Except

/-! The growth of chains.  A block that is made on a header names its hash, has the next number and
the digest of its own body, and is no first block.  Entries are made into blocks one after the other
until the last number of all is taken, and from there on none of them is. -/

namespace SlotConsensus

namespace Block

/-- The block is one of those that can be made on `parent`. -/
structure Continues (parent : Header) (b : Block) : Prop where
  parentHash : b.header.parentHash = parent.hash
  number : b.header.number.toNat = parent.number.toNat + 1
  bodyMatches : b.bodyMatches = true

/-- The block is the one that the entry adds to `parent`. -/
structure Carries (parent : Header) (e : Entry) (b : Block) : Prop extends Continues parent b where
  timestamp : b.header.timestamp = e.timestamp
  body : b.body = e.body
  fee : b.header.fee = e.fee

section Made

variable {parent : Header} {b : Block}

theorem carries_of_child {e : Entry} (h : child parent e.timestamp e.body e.fee = .ok b) :
    b.Carries parent e := by
  obtain ⟨number, hnumber, hb⟩ := bind_eq_ok_iff.mp h
  cases hb
  exact ⟨⟨rfl, Checked.add_eq_ok_iff.mp hnumber, bodyMatches_iff.mpr rfl⟩, rfl, rfl, rfl⟩

theorem continues_of_child {timestamp : Timestamp} {body : List UInt8} {fee : UInt64}
    (h : child parent timestamp body fee = .ok b) : b.Continues parent :=
  (carries_of_child (e := ⟨timestamp, body, fee⟩) h).toContinues

/-- Its number is not zero. -/
theorem Continues.not_isGenesis (h : b.Continues parent) : b.isGenesis = false := by
  have hnumber : b.header.number ≠ 0 := by
    intro hzero
    have hsucc := h.number
    rw [hzero] at hsucc
    cases hsucc
  simp [isGenesis, Header.isGenesis, hnumber]

/-- Another body matches the header only if it has the digest of the first one. -/
theorem Continues.collide_of_other_body (h : b.Continues parent) {other : List UInt8}
    (hother : other ≠ b.body) (hmatches : Block.bodyMatches { b with body := other } = true) :
    Hash.Collide other b.body :=
  ⟨hother, (bodyMatches_iff.mp hmatches).trans (bodyMatches_iff.mp h.bodyMatches).symm⟩

end Made

end Block

namespace Chain

/-- The header of the last block, or `head` when there are no blocks. -/
def lastHeader (head : Header) : List Block → Header
  | [] => head
  | b :: rest => lastHeader b.header rest

/-- Each block is the one that its entry adds to the block before it, and the first one to
`head`. -/
inductive Carries : Header → List Entry → List Block → Prop
  | nil (head : Header) : Carries head [] []
  | cons {head : Header} {e : Entry} {b : Block} {entries : List Entry} {blocks : List Block} :
      b.Carries head e → Carries b.header entries blocks → Carries head (e :: entries) (b :: blocks)

theorem length_extend (head : Header) (entries : List Entry) :
    (extend head entries).length = entries.length := by
  induction entries generalizing head with
  | nil => rfl
  | cons e rest ih =>
    rw [extend]
    split
    · exact congrArg (· + 1) (ih _)
    · exact congrArg (· + 1) (ih _)

/-- On the last number of all nothing is made, so the head stays what it is. -/
theorem extend_of_last {head : Header} (h : head.number.toNat = 0xffffffffffffffff)
    (entries : List Entry) :
    extend head entries = List.replicate entries.length (.error .sum) := by
  induction entries with
  | nil => rfl
  | cons e rest ih =>
    simp only [extend, Block.child_of_last h, ih, List.length_cons, List.replicate_succ]

/-- As many entries as there are numbers left become blocks, and the others fail. -/
theorem extend_carries (head : Header) (entries : List Entry) :
    ∃ blocks, blocks.length = min (0xffffffffffffffff - head.number.toNat) entries.length ∧
      extend head entries =
        blocks.map .ok ++ List.replicate (entries.length - blocks.length) (.error .sum) ∧
      Carries head (entries.take blocks.length) blocks := by
  induction entries generalizing head with
  | nil => exact ⟨[], (Nat.min_zero _).symm, rfl, .nil head⟩
  | cons e rest ih =>
    have hlt := head.number.toNat_lt
    rcases Nat.lt_or_ge head.number.toNat 0xffffffffffffffff with hnumber | hlast
    · have hchild := Block.child_of_lt hnumber e.timestamp e.body e.fee
      have hcarries := Block.carries_of_child hchild
      obtain ⟨blocks, hlength, hextend, hrest⟩ := ih _
      rw [hcarries.number] at hlength
      refine ⟨_ :: blocks, ?_, ?_, .cons hcarries hrest⟩
      · simp only [List.length_cons]
        omega
      · simp only [extend, hchild, hextend, List.map_cons, List.cons_append, List.length_cons,
          Nat.add_sub_add_right]
    · refine ⟨[], ?_, extend_of_last (by omega) _, .nil head⟩
      simp only [List.length_nil]
      omega

/-- The blocks of the entries, one by one. -/
theorem Carries.block {head : Header} {entries : List Entry} {blocks : List Block}
    (h : Carries head entries blocks) {i : Nat} {b : Block} (hb : blocks[i]? = some b) :
    ∃ e, entries[i]? = some e ∧ b.Carries (lastHeader head (blocks.take i)) e ∧
      b.header.number.toNat = head.number.toNat + (i + 1) := by
  induction h generalizing i with
  | nil => cases hb
  | cons hfirst _ ih =>
    cases i with
    | zero =>
      cases hb
      exact ⟨_, rfl, hfirst, hfirst.number⟩
    | succ i =>
      obtain ⟨e, he, hcarries, hnumber⟩ := ih hb
      refine ⟨e, he, hcarries, ?_⟩
      rw [hnumber, hfirst.number]
      omega

/-- From any header on, as many entries as there are numbers left become blocks, and all the others
fail.  Each block is linked to the one before it, has the next number and what its entry says,
matches its body and no other one without a collision, and is no first block. -/
theorem extend_to_last_number (parent : Header) (entries : List Entry) :
    ∃ blocks : List Block,
      blocks.length = min (0xffffffffffffffff - parent.number.toNat) entries.length ∧
      extend parent entries =
        blocks.map .ok ++ List.replicate (entries.length - blocks.length) (.error .sum) ∧
      ∀ (i : Nat) (b : Block), blocks[i]? = some b → ∃ e, entries[i]? = some e ∧
        b.header.number.toNat = parent.number.toNat + (i + 1) ∧
        b.header.parentHash = (lastHeader parent (blocks.take i)).hash ∧
        b.header.timestamp = e.timestamp ∧ b.header.fee = e.fee ∧ b.body = e.body ∧
        b.bodyMatches = true ∧ b.isGenesis = false ∧
        ∀ other, other ≠ b.body →
          Block.bodyMatches { b with body := other } = false ∨ Hash.Collide other b.body := by
  obtain ⟨blocks, hlength, hextend, hcarries⟩ := extend_carries parent entries
  refine ⟨blocks, hlength, hextend, ?_⟩
  intro i b hb
  obtain ⟨e, he, hmade, hnumber⟩ := hcarries.block hb
  rw [List.getElem?_take_of_lt (List.getElem?_eq_some_iff.mp hb).1] at he
  refine ⟨e, he, hnumber, hmade.parentHash, hmade.timestamp, hmade.fee, hmade.body,
    hmade.bodyMatches, hmade.not_isGenesis, ?_⟩
  intro other hother
  cases hmatches : Block.bodyMatches { b with body := other } with
  | false => exact Or.inl rfl
  | true => exact Or.inr (hmade.collide_of_other_body hother hmatches)

/-- One number below the last one there is room for one of two entries. -/
theorem extend_to_last_number_full :
    ∃ b, extend { Header.genesis with number := 0xfffffffffffffffe }
        [⟨120, [1, 2, 3], 10⟩, ⟨130, [], 0⟩] = [.ok b, .error .sum] ∧
      b.header.number.toNat = 0xffffffffffffffff ∧ b.isGenesis = false := by
  obtain ⟨blocks, hlength, hextend, hblocks⟩ :=
    extend_to_last_number { Header.genesis with number := 0xfffffffffffffffe }
      [⟨120, [1, 2, 3], 10⟩, ⟨130, [], 0⟩]
  obtain ⟨b, rfl⟩ := List.length_eq_one_iff.mp hlength
  obtain ⟨-, -, hnumber, -, -, -, -, -, hgenesis, -⟩ := hblocks 0 b rfl
  exact ⟨b, hextend, hnumber, hgenesis⟩

end Chain

end SlotConsensus
