import SlotConsensus.Error

/-! Rosters: the validators in the order in which they take turns, each of them once. -/

namespace SlotConsensus

/-- The list without the elements that occur earlier in it. -/
def firsts {α : Type} [DecidableEq α] : List α → List α
  | [] => []
  | a :: rest => a :: (firsts rest).filter (· ≠ a)

section Firsts

variable {α : Type} [DecidableEq α]

@[simp] theorem mem_firsts {a : α} {l : List α} : a ∈ firsts l ↔ a ∈ l := by
  induction l with
  | nil => rfl
  | cons b rest ih => by_cases h : a = b <;> simp [firsts, ih, h]

theorem nodup_firsts (l : List α) : (firsts l).Nodup := by
  induction l with
  | nil => exact List.nodup_nil
  | cons b rest ih => exact List.nodup_cons.2 ⟨by simp, ih.filter _⟩

theorem firsts_of_nodup {l : List α} (h : l.Nodup) : firsts l = l := by
  induction l with
  | nil => rfl
  | cons b rest ih =>
    obtain ⟨hb, hr⟩ := List.nodup_cons.1 h
    rw [firsts, ih hr, List.filter_eq_self.2]
    intro a ha
    simp only [ne_eq, decide_eq_true_eq]
    rintro rfl
    exact hb ha

theorem firsts_concat (l : List α) (a : α) :
    firsts (l ++ [a]) = if a ∈ l then firsts l else firsts l ++ [a] := by
  induction l with
  | nil => rfl
  | cons b rest ih =>
    simp only [List.cons_append, firsts, ih, List.mem_cons]
    by_cases hr : a ∈ rest
    · rw [if_pos hr, if_pos (Or.inr hr)]
    · by_cases hb : a = b
      · rw [if_neg hr, if_pos (Or.inl hb)]
        simp [hb]
      · rw [if_neg hr, if_neg (not_or.mpr ⟨hb, hr⟩)]
        simp [hb]

theorem filter_firsts (p : α → Bool) (l : List α) : (firsts l).filter p = firsts (l.filter p) := by
  induction l with
  | nil => rfl
  | cons b rest ih =>
    by_cases hb : p b
    · rw [firsts, List.filter_cons_of_pos hb, List.filter_cons_of_pos hb, firsts, ← ih,
        List.filter_filter, List.filter_filter]
      exact congrArg (b :: ·) (List.filter_congr fun a _ => Bool.and_comm ..)
    · rw [firsts, List.filter_cons_of_neg hb, List.filter_cons_of_neg hb, ← ih,
        List.filter_filter]
      refine List.filter_congr fun a _ => ?_
      by_cases ha : a = b
      · simp [ha, hb]
      · simp [ha]

/-- An element that has occurred already may be left out. -/
theorem firsts_append_cons_of_mem {l m : List α} {a : α} (h : a ∈ l) :
    firsts (l ++ a :: m) = firsts (l ++ m) := by
  induction l with
  | nil => cases h
  | cons b rest ih =>
    simp only [List.cons_append, firsts]
    by_cases hb : a = b
    · rw [filter_firsts, filter_firsts, List.filter_append, List.filter_append,
        List.filter_cons_of_neg (by simp [hb])]
    · rw [ih ((List.mem_cons.mp h).resolve_left hb)]

end Firsts

structure Roster where
  members : List PublicKey
  nodup : members.Nodup

namespace Roster

@[ext] theorem ext {a b : Roster} (h : a.members = b.members) : a = b := by
  cases a; cases b; cases h; rfl

instance : DecidableEq Roster := fun a b =>
  decidable_of_iff (a.members = b.members) ⟨ext, fun h => h ▸ rfl⟩

/-- The members in the order of their first places in the list. -/
def ofList (keys : List PublicKey) : Roster := ⟨firsts keys, nodup_firsts keys⟩

def empty : Roster := ⟨[], List.nodup_nil⟩

def size (r : Roster) : Nat := r.members.length

def isEmpty (r : Roster) : Bool := r.members.isEmpty

/-- The members, unless there are none. -/
def validators (r : Roster) : Except ConsensusError (List PublicKey) :=
  if r.isEmpty then .error .emptyRoster else .ok r.members

/-- The place of a member, counted from zero. -/
def position (r : Roster) (k : PublicKey) : Option Nat := r.members.findIdx? (· = k)

def contains (r : Roster) (k : PublicKey) : Bool := (r.position k).isSome

end Roster

end SlotConsensus
