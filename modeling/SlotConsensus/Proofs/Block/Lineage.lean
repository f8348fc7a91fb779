import Mathlib.Data.List.Induction
import SlotConsensus.Proofs.Block.Growth

/-! Chains, whose blocks are each made on the header before them.  A header names the hash of the
one before it and counts one block more, so the hash of the last header leaves no choice for the
blocks before it: two chains from one header that end in the same hash are equal, or two of their
byte strings collide. -/

namespace SlotConsensus

namespace Chain

/-- Each block continues the one before it, and the first one `head`. -/
inductive Linked : Header → List Block → Prop
  | nil (head : Header) : Linked head []
  | cons {head : Header} {b : Block} {rest : List Block} :
      b.Continues head → Linked b.header rest → Linked head (b :: rest)

theorem Carries.linked {head : Header} {entries : List Entry} {blocks : List Block}
    (h : Carries head entries blocks) : Linked head blocks := by
  induction h with
  | nil head => exact .nil head
  | cons hfirst _ ih => exact .cons hfirst.toContinues ih

/-- There are numbers for all the entries, so all the blocks are made. -/
theorem extend_linked {head : Header} {entries : List Entry}
    (hroom : head.number.toNat + entries.length ≤ 0xffffffffffffffff) :
    ∃ blocks, extend head entries = blocks.map .ok ∧ Linked head blocks := by
  obtain ⟨blocks, hlength, hextend, hcarries⟩ := extend_carries head entries
  have hall : blocks.length = entries.length := by omega
  refine ⟨blocks, ?_, hcarries.linked⟩
  rw [hextend, hall, Nat.sub_self, List.replicate_zero, List.append_nil]

section Linked

variable {head : Header} {bs : List Block} {b : Block}

theorem lastHeader_concat : lastHeader head (bs ++ [b]) = b.header := by
  induction bs generalizing head with
  | nil => rfl
  | cons first rest ih => exact ih

theorem linked_concat (h : Linked head (bs ++ [b])) :
    Linked head bs ∧ b.Continues (lastHeader head bs) := by
  induction bs generalizing head with
  | nil =>
    cases h with
    | cons hb _ => exact ⟨.nil head, hb⟩
  | cons first rest ih =>
    cases h with
    | cons hfirst hrest =>
      obtain ⟨hlinked, hb⟩ := ih hrest
      exact ⟨.cons hfirst hlinked, hb⟩

theorem Linked.number (h : Linked head bs) :
    (lastHeader head bs).number.toNat = head.number.toNat + bs.length := by
  induction h with
  | nil => rfl
  | cons hb _ ih =>
    rw [lastHeader, ih, hb.number, List.length_cons]
    omega

end Linked

/-! ### Chains with one last hash -/

/-- The byte strings that the hashes of a chain are the digests of: the byte forms of its headers,
that of `head` among them, and its bodies. -/
def preimages (head : Header) (blocks : List Block) : List (List UInt8) :=
  head.encode :: blocks.flatMap fun b => [b.header.encode, b.body]

section Preimages

variable {head : Header} {bs : List Block} {b : Block}

theorem preimages_subset_concat : preimages head bs ⊆ preimages head (bs ++ [b]) := by
  intro x hx
  simp only [preimages, List.mem_cons, List.flatMap_append, List.mem_append] at hx ⊢
  exact hx.imp_right Or.inl

theorem encode_mem_preimages : (lastHeader head bs).encode ∈ preimages head bs := by
  induction bs using List.reverseRecOn with
  | nil => simp [lastHeader, preimages]
  | append_singleton bs b _ => simp [lastHeader_concat, preimages]

theorem body_mem_preimages : b.body ∈ preimages head (bs ++ [b]) := by
  simp [preimages]

end Preimages

/-- A byte string of one chain collides with one of the other. -/
def Collide (head : Header) (bs cs : List Block) : Prop :=
  ∃ x ∈ preimages head bs, ∃ y ∈ preimages head cs, Hash.Collide x y

theorem Collide.concat {head : Header} {bs cs : List Block} {b c : Block}
    (h : Collide head bs cs) : Collide head (bs ++ [b]) (cs ++ [c]) := by
  obtain ⟨x, hx, y, hy, hxy⟩ := h
  exact ⟨x, preimages_subset_concat hx, y, preimages_subset_concat hy, hxy⟩

theorem lastHeader_eq_or_collide {head : Header} {bs cs : List Block}
    (h : (lastHeader head bs).hash = (lastHeader head cs).hash) :
    lastHeader head bs = lastHeader head cs ∨ Collide head bs cs := by
  rcases Header.eq_or_collide h with hlast | hcollide
  · exact Or.inl hlast
  · exact Or.inr ⟨_, encode_mem_preimages, _, encode_mem_preimages, hcollide⟩

/-- Two chains from one header that end in the same header are equal, or they collide.  The
induction is on the last block: unless the last bodies collide the last blocks are equal, and then
so are the hashes before them. -/
theorem eq_or_collide_of_lastHeader {head : Header} {bs cs : List Block} (hb : Linked head bs)
    (hc : Linked head cs) (h : lastHeader head bs = lastHeader head cs) :
    bs = cs ∨ Collide head bs cs := by
  -- The last number tells the length.
  have hlength : bs.length = cs.length := by
    have hnumber := hb.number
    rw [h, hc.number] at hnumber
    omega
  induction bs using List.reverseRecOn generalizing cs with
  | nil => exact Or.inl (List.length_eq_zero_iff.mp hlength.symm).symm
  | append_singleton bs b ih =>
    rcases List.eq_nil_or_concat cs with rfl | ⟨cs, c, rfl⟩
    · simp at hlength
    · rw [List.concat_eq_append] at hc h hlength ⊢
      rw [lastHeader_concat, lastHeader_concat] at h
      obtain ⟨hbs, hblast⟩ := linked_concat hb
      obtain ⟨hcs, hclast⟩ := linked_concat hc
      rcases Block.eq_or_collide_of_header hblast.bodyMatches hclast.bodyMatches h with
        rfl | hbodies
      · rcases lastHeader_eq_or_collide (hblast.parentHash.symm.trans hclast.parentHash) with
          hprevious | hcollide
        · rcases ih hbs hcs hprevious (by simpa using hlength) with rfl | hcollide
          · exact Or.inl rfl
          · exact Or.inr hcollide.concat
        · exact Or.inr hcollide.concat
      · exact Or.inr ⟨_, body_mem_preimages, _, body_mem_preimages, hbodies⟩

/-- Two chains of fewer than `2 ^ 64` blocks each from the first header are made to their ends, and
if their last headers have one hash, they have the same blocks, unless a byte string of one collides
with one of the other. -/
theorem last_hash_commits (entries others : List Entry)
    (hentries : entries.length < 0x10000000000000000)
    (hothers : others.length < 0x10000000000000000) :
    ∃ bs cs : List Block, extend Header.genesis entries = bs.map .ok ∧
      extend Header.genesis others = cs.map .ok ∧
      ((lastHeader Header.genesis bs).hash = (lastHeader Header.genesis cs).hash →
        bs = cs ∨ Collide Header.genesis bs cs) := by
  have hroom : ∀ n < 0x10000000000000000,
      Header.genesis.number.toNat + n ≤ 0xffffffffffffffff := by
    intro n hn
    rw [show Header.genesis.number.toNat = 0 from rfl]
    omega
  obtain ⟨bs, hbs, hb⟩ := extend_linked (hroom _ hentries)
  obtain ⟨cs, hcs, hc⟩ := extend_linked (hroom _ hothers)
  refine ⟨bs, cs, hbs, hcs, ?_⟩
  intro hhash
  rcases lastHeader_eq_or_collide hhash with hlast | hcollide
  · exact eq_or_collide_of_lastHeader hb hc hlast
  · exact Or.inr hcollide

section Sample

def sampleEntries : List Entry := [⟨120, [1, 2, 3], 10⟩, ⟨130, [], 0⟩]

/-- A chain and the same chain without its last block cannot end in the same hash without a
collision. -/
theorem last_hash_commits_longer :
    ∃ bs cs : List Block, extend Header.genesis sampleEntries = bs.map .ok ∧
      extend Header.genesis (sampleEntries.take 1) = cs.map .ok ∧
      ((lastHeader Header.genesis bs).hash = (lastHeader Header.genesis cs).hash →
        Collide Header.genesis bs cs) := by
  obtain ⟨bs, cs, hbs, hcs, hcommits⟩ :=
    last_hash_commits sampleEntries (sampleEntries.take 1) (by decide) (by decide)
  refine ⟨bs, cs, hbs, hcs, ?_⟩
  intro hhash
  rcases hcommits hhash with rfl | hcollide
  · have hlength := congrArg List.length (hbs.trans hcs.symm)
    rw [length_extend, length_extend] at hlength
    exact absurd hlength (by decide)
  · exact hcollide

end Sample

end Chain

end SlotConsensus
