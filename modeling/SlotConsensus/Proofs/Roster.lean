import Mathlib.Data.Finset.Insert
import Mathlib.Data.List.Induction
import Mathlib.Data.List.Nodup
import SlotConsensus.Node

/-! The members of a roster: of the keys that it is made from, those that do not occur earlier.
Each key has one place among them, in the order of its first place in the list.  A single pass
that remembers what it has met finds them, and so two lists make one roster exactly when they have
the same keys with their first places in the same order. -/

namespace SlotConsensus

section Firsts

variable {α : Type} [DecidableEq α] {l m : List α}

/-- An element stays exactly when it is not among those before its place. -/
theorem firsts_eq_filter (l : List α) :
    firsts l = (l.zipIdx.filter fun (a, i) => a ∉ l.take i).map Prod.fst := by
  induction l using List.reverseRecOn with
  | nil => rfl
  | append_singleton l a ih =>
    have hbefore : ∀ p ∈ l.zipIdx,
        decide (p.1 ∉ (l ++ [a]).take p.2) = decide (p.1 ∉ l.take p.2) := by
      intro p hp
      rw [List.take_append_of_le_length (Nat.le_of_lt (List.snd_lt_of_mem_zipIdx hp))]
    rw [firsts_concat, List.zipIdx_append, List.filter_append, List.map_append,
      List.filter_congr hbefore, ← ih]
    by_cases ha : a ∈ l
    · simp [ha]
    · simp [ha]

theorem firsts_eq_nil_iff : firsts l = [] ↔ l = [] := by
  cases l with
  | nil => simp [firsts]
  | cons a rest => simp [firsts]

theorem length_firsts_le (l : List α) : (firsts l).length ≤ l.length := by
  rw [firsts_eq_filter, List.length_map, ← List.length_zipIdx (l := l) (i := 0)]
  exact List.length_filter_le _ _

/-! ### The order of first places -/

theorem pairwise_firsts (l : List α) :
    (firsts l).Pairwise fun a b => l.idxOf a < l.idxOf b := by
  induction l with
  | nil => exact .nil
  | cons a rest ih =>
    have hlater : ∀ b ∈ (firsts rest).filter (· ≠ a),
        (a :: rest).idxOf b = rest.idxOf b + 1 := by
      intro b hb
      have hne : b ≠ a := by simpa using (List.mem_filter.mp hb).2
      exact List.idxOf_cons_ne rest hne.symm
    rw [firsts]
    apply List.Pairwise.cons
    · intro b hb
      rw [hlater b hb, List.idxOf_cons_self]
      omega
    · apply (ih.filter _).imp_of_mem
      intro b c hb hc h
      rw [hlater b hb, hlater c hc]
      omega

/-- Only one list has each element once and in the order of its first place. -/
theorem eq_firsts_of_pairwise (hmem : ∀ a, a ∈ m ↔ a ∈ l)
    (horder : m.Pairwise fun a b => l.idxOf a < l.idxOf b) : m = firsts l := by
  have hnodup : m.Nodup := by
    apply horder.imp
    rintro a b h rfl
    exact Nat.lt_irrefl _ h
  have hperm : m.Perm (firsts l) :=
    (List.perm_ext_iff_of_nodup hnodup (nodup_firsts l)).mpr fun a =>
      (hmem a).trans mem_firsts.symm
  exact hperm.eq_of_pairwise (fun a b _ _ hab hba => absurd hab (Nat.lt_asymm hba)) horder
    (pairwise_firsts l)

/-- The lists have the same elements, with their first places in the same order. -/
structure FirstsAlike (l m : List α) : Prop where
  mem : ∀ a, a ∈ l ↔ a ∈ m
  order : ∀ a ∈ l, ∀ b ∈ l, l.idxOf a < l.idxOf b ↔ m.idxOf a < m.idxOf b

theorem FirstsAlike.symm (h : FirstsAlike l m) : FirstsAlike m l where
  mem a := (h.mem a).symm
  order a ha b hb := (h.order a ((h.mem a).mpr ha) b ((h.mem b).mpr hb)).symm

theorem FirstsAlike.trans {n : List α} (h : FirstsAlike l m) (h' : FirstsAlike m n) :
    FirstsAlike l n where
  mem a := (h.mem a).trans (h'.mem a)
  order a ha b hb :=
    (h.order a ha b hb).trans (h'.order a ((h.mem a).mp ha) b ((h.mem b).mp hb))

theorem firstsAlike_firsts (l : List α) : FirstsAlike (firsts l) l := by
  have hbefore : ∀ a ∈ firsts l, ∀ b ∈ firsts l, (firsts l).idxOf a < (firsts l).idxOf b →
      l.idxOf a < l.idxOf b := by
    intro a ha b hb h
    have hpair := List.pairwise_iff_getElem.mp (pairwise_firsts l) _ _
      (List.idxOf_lt_length_of_mem ha) (List.idxOf_lt_length_of_mem hb) h
    rwa [List.getElem_idxOf, List.getElem_idxOf] at hpair
  refine ⟨fun a => mem_firsts, ?_⟩
  intro a ha b hb
  constructor
  · exact hbefore a ha b hb
  · intro h
    -- otherwise the first places would be the same, or the other way round
    rcases Nat.lt_trichotomy ((firsts l).idxOf a) ((firsts l).idxOf b) with hlt | heq | hgt
    · exact hlt
    · obtain rfl := (List.idxOf_inj ha).mp heq
      exact absurd h (Nat.lt_irrefl _)
    · exact absurd h (Nat.lt_asymm (hbefore b hb a ha hgt))

theorem firsts_eq_iff : firsts l = firsts m ↔ FirstsAlike l m := by
  constructor
  · intro h
    have hl := (firstsAlike_firsts l).symm
    rw [h] at hl
    exact hl.trans (firstsAlike_firsts m)
  · intro h
    apply eq_firsts_of_pairwise
    · exact fun a => mem_firsts.trans (h.mem a)
    · apply (pairwise_firsts l).imp_of_mem
      intro a b ha hb hab
      exact (h.order a (mem_firsts.mp ha) b (mem_firsts.mp hb)).mp hab

end Firsts

/-! ### A single pass -/

/-- What one pass over a list has met so far, and what it has kept. -/
structure Pass (α : Type) where
  met : Finset α
  kept : List α

namespace Pass

variable {α : Type} [DecidableEq α]

/-- An element is kept when it is met for the first time. -/
def visit (p : Pass α) (a : α) : Pass α where
  met := insert a p.met
  kept := if a ∈ p.met then p.kept else p.kept ++ [a]

def through (l : List α) : Pass α := l.foldl visit ⟨∅, []⟩

/-- The pass has gone through the elements of `l`, and has not met any others. -/
structure Behind (l : List α) (p : Pass α) : Prop where
  met : ∀ a, a ∈ p.met ↔ a ∈ l
  kept : p.kept = firsts l

theorem Behind.visit {l : List α} {p : Pass α} (h : Behind l p) (a : α) :
    Behind (l ++ [a]) (p.visit a) where
  met b := by
    simp only [Pass.visit, Finset.mem_insert, List.mem_append, List.mem_singleton, h.met]
    exact or_comm
  kept := by
    simp only [Pass.visit, h.met, h.kept, firsts_concat]

theorem behind_through (l : List α) : Behind l (through l) := by
  induction l using List.reverseRecOn with
  | nil => exact ⟨by simp [through], rfl⟩
  | append_singleton l a ih =>
    rw [through, List.foldl_append]
    exact ih.visit a

example : (through [3, 1, 3, 2, 1]).kept = [3, 1, 2] := by decide

end Pass

/-! ### Rosters -/

namespace Roster

variable {r : Roster} {k : PublicKey}

theorem validators_ofList (keys : List PublicKey) :
    (ofList keys).validators = if keys = [] then .error .emptyRoster else .ok (firsts keys) := by
  simp only [validators, isEmpty, ofList, List.isEmpty_iff, firsts_eq_nil_iff]

theorem position_eq_some_iff {i : Nat} : r.position k = some i ↔ r.members[i]? = some k := by
  rw [position, List.findIdx?_eq_some_iff_getElem]
  constructor
  · rintro ⟨hi, hk, -⟩
    rw [List.getElem?_eq_getElem hi, of_decide_eq_true hk]
  · intro h
    obtain ⟨hi, rfl⟩ := List.getElem?_eq_some_iff.mp h
    refine ⟨hi, decide_eq_true rfl, ?_⟩
    intro j hji hj
    have hsame : j = i := r.nodup.getElem_inj_iff.mp (of_decide_eq_true hj)
    omega

theorem contains_iff : r.contains k = true ↔ k ∈ r.members := by
  rw [contains, Option.isSome_iff_exists, List.mem_iff_getElem?]
  exact exists_congr fun _ => position_eq_some_iff

theorem ofList_members (r : Roster) : ofList r.members = r := ext (firsts_of_nodup r.nodup)

theorem ofList_eq_iff {keys others : List PublicKey} :
    ofList keys = ofList others ↔ FirstsAlike keys others := by
  rw [← firsts_eq_iff]
  constructor
  · exact congrArg members
  · intro h
    exact ext h

end Roster

/-- Whatever roster a node had, the keys that it is given are now its members, each of them once and
in the order of their first places, as a single pass finds them.  Asking for the members fails only
if no keys were given, and asking for a place gives the one where the key stands.  To give the
members again changes nothing, and other keys make the same roster exactly if they are alike in
their first places. -/
theorem Node.setRoster_keeps_firsts (n : Node) (keys : List PublicKey) :
    let r := (n.setRoster keys).roster
    r = Roster.ofList keys ∧ r.members = (Pass.through keys).kept ∧ r.members.Nodup ∧
    FirstsAlike r.members keys ∧
    r.validators = (if keys = [] then .error .emptyRoster else .ok r.members) ∧
    (∀ k i, r.position k = some i ↔ r.members[i]? = some k) ∧
    (∀ k, r.contains k = true ↔ k ∈ keys) ∧
    (n.setRoster keys).setRoster r.members = n.setRoster keys ∧
    ∀ others, Roster.ofList keys = Roster.ofList others ↔ FirstsAlike keys others := by
  intro r
  have hagain : (n.setRoster keys).setRoster r.members = n.setRoster keys := by
    show { n.setRoster keys with roster := Roster.ofList r.members } = n.setRoster keys
    rw [Roster.ofList_members]
  refine ⟨rfl, (Pass.behind_through keys).kept.symm, r.nodup, firstsAlike_firsts keys,
    Roster.validators_ofList keys, fun _ _ => Roster.position_eq_some_iff, ?_, hagain,
    fun _ => Roster.ofList_eq_iff⟩
  intro k
  exact Roster.contains_iff.trans mem_firsts

end SlotConsensus
