import SlotConsensus.Proofs.Tracker.Finality

/-! Several parties who endorse one pending proposal at the same time.  Each makes its calls in an
order of its own, and the tracker takes them one by one in any order that keeps to these.  Whatever
that order is, everybody who had not endorsed the proposal is accepted the first time and never
again.  So the order decides only how the new endorsers are arranged behind the old ones. -/

namespace SlotConsensus.Tracker

/-! ### Interleavings -/

/-- The order takes the first call that one of the parties has left, until none of them has any. -/
inductive Interleaves {α : Type} : List (List α) → List α → Prop
  | done {parties : List (List α)} :
      (∀ calls ∈ parties, calls = []) → Interleaves parties []
  | next (before after : List (List α)) {a : α} {rest order : List α} :
      Interleaves (before ++ rest :: after) order →
      Interleaves (before ++ (a :: rest) :: after) (a :: order)

theorem Interleaves.perm {α : Type} {parties : List (List α)} {order : List α}
    (hi : Interleaves parties order) : order.Perm parties.flatten := by
  induction hi with
  | done hnone => rw [List.flatten_eq_nil_iff.mpr hnone]
  | next before after _ ih =>
    rw [List.flatten_append, List.flatten_cons] at ih ⊢
    exact (ih.cons _).trans List.perm_middle.symm

/-! ### Newcomers -/

/-- Those who ask to endorse and are not among those present, each of them once and in the order in
which they ask first. -/
def newcomers (present order : List PublicKey) : List PublicKey :=
  firsts (order.filter (· ∉ present))

section Newcomers

variable {present order : List PublicKey} {k : PublicKey}

theorem mem_newcomers : k ∈ newcomers present order ↔ k ∉ present ∧ k ∈ order := by
  rw [newcomers, mem_firsts, List.mem_filter, decide_eq_true_iff]
  exact And.comm

theorem mem_endorsers_newcomers {p : Proposal} :
    k ∈ Proposal.endorsers { p with others := p.others ++ newcomers p.endorsers order } ↔
      k ∈ p.endorsers ∨ k ∈ order := by
  rw [endorsers_concat, List.mem_append, mem_newcomers]
  by_cases hk : k ∈ p.endorsers <;> simp [hk]

theorem newcomers_concat_of_mem (h : k ∈ present ∨ k ∈ order) :
    newcomers present (order ++ [k]) = newcomers present order := by
  rw [newcomers, List.filter_append]
  by_cases hk : k ∈ present
  · rw [List.filter_cons_of_neg (by simpa using hk), List.filter_nil, List.append_nil, newcomers]
  · have hmem : k ∈ order.filter (· ∉ present) := by simpa [hk] using h
    rw [List.filter_cons_of_pos (by simpa using hk), List.filter_nil, firsts_concat, if_pos hmem,
      newcomers]

theorem newcomers_concat_of_notMem (h : ¬(k ∈ present ∨ k ∈ order)) :
    newcomers present (order ++ [k]) = newcomers present order ++ [k] := by
  obtain ⟨hk, horder⟩ := not_or.mp h
  have hmem : k ∉ order.filter (· ∉ present) := fun hmem => horder (List.mem_of_mem_filter hmem)
  rw [newcomers, List.filter_append, List.filter_cons_of_pos (by simpa using hk), List.filter_nil,
    firsts_concat, if_neg hmem, newcomers]

theorem newcomers_perm {other : List PublicKey} (h : order.Perm other) :
    (newcomers present order).Perm (newcomers present other) := by
  apply (List.perm_ext_iff_of_nodup (nodup_firsts _) (nodup_firsts _)).mpr
  intro k
  show k ∈ newcomers present order ↔ k ∈ newcomers present other
  rw [mem_newcomers, mem_newcomers, h.mem_iff]

end Newcomers

/-! ### Endorsements in any order -/

variable {recovery : Recovery}

/-- The outcomes that the call has in a run, one for each time that it is made. -/
def outcomesOf (t : Tracker recovery) (c : Call) (calls : List Call) : List Outcome :=
  ((t.history calls).filter fun e => e.call = c).map Event.outcome

theorem outcomesOf_concat_self (t : Tracker recovery) (c : Call) (calls : List Call) :
    t.outcomesOf c (calls ++ [c]) = t.outcomesOf c calls ++ [((t.run calls).2.step c).1] := by
  simp [outcomesOf, history_concat]

theorem outcomesOf_concat_of_ne (t : Tracker recovery) {c d : Call} (hd : d ≠ c)
    (calls : List Call) : t.outcomesOf c (calls ++ [d]) = t.outcomesOf c calls := by
  simp [outcomesOf, history_concat, hd]

/-- The outcomes of so many calls for one identity, of which the first succeeds. -/
def onlyFirst (h : Hash) (k : PublicKey) : Nat → List Outcome
  | 0 => []
  | n + 1 => .ok .done :: List.replicate n (.error (.duplicateEndorsement h k))

theorem onlyFirst_succ_succ (h : Hash) (k : PublicKey) (n : Nat) :
    onlyFirst h k (n + 2) = onlyFirst h k (n + 1) ++ [.error (.duplicateEndorsement h k)] := by
  rw [onlyFirst, onlyFirst, List.replicate_succ', List.cons_append]

section Endorsements

variable {t : Tracker recovery} {h : Hash} {p : Proposal} (hp : t.pending[h]? = some p)
include hp

theorem pending_run_endorse (order : List PublicKey) :
    (t.run (order.map (.endorse h))).2.pending[h]? =
      some { p with others := p.others ++ newcomers p.endorsers order } := by
  induction order using List.reverseRecOn with
  | nil => simpa [run, newcomers, firsts] using hp
  | append_singleton order k ih =>
    rw [List.map_append, List.map_singleton, run_concat]
    by_cases hk : k ∈ p.endorsers ∨ k ∈ order
    · rw [step_endorse_of_mem ih (mem_endorsers_newcomers.mpr hk), ih,
        newcomers_concat_of_mem hk]
    · rw [step_endorse_of_notMem ih (mt mem_endorsers_newcomers.mp hk),
        getElem?_pending_insert, if_pos rfl, newcomers_concat_of_notMem hk, List.append_assoc]

theorem outcome_of_mem {order : List PublicKey} {k : PublicKey}
    (hk : k ∈ p.endorsers ∨ k ∈ order) :
    ((t.run (order.map (.endorse h))).2.step (.endorse h k)).1 =
      .error (.duplicateEndorsement h k) := by
  rw [step_endorse_of_mem (pending_run_endorse hp order) (mem_endorsers_newcomers.mpr hk)]

theorem outcome_of_notMem {order : List PublicKey} {k : PublicKey}
    (hk : ¬(k ∈ p.endorsers ∨ k ∈ order)) :
    ((t.run (order.map (.endorse h))).2.step (.endorse h k)).1 = .ok .done := by
  rw [step_endorse_of_notMem (pending_run_endorse hp order)
    (mt mem_endorsers_newcomers.mp hk)]

/-- As many calls succeed as there are newcomers. -/
theorem countP_isOk_run_endorse (order : List PublicKey) :
    (t.run (order.map (.endorse h))).1.countP Except.isOk =
      (newcomers p.endorsers order).length := by
  induction order using List.reverseRecOn with
  | nil => rfl
  | append_singleton order k ih =>
    rw [List.map_append, List.map_singleton, run_concat, List.countP_append, ih]
    by_cases hk : k ∈ p.endorsers ∨ k ∈ order
    · rw [outcome_of_mem hp hk, newcomers_concat_of_mem hk]
      rfl
    · rw [outcome_of_notMem hp hk, newcomers_concat_of_notMem hk, List.length_append]
      rfl

theorem outcomesOf_endorse_of_mem {k : PublicKey} (hk : k ∈ p.endorsers)
    (order : List PublicKey) :
    t.outcomesOf (.endorse h k) (order.map (.endorse h)) =
      List.replicate (order.count k) (.error (.duplicateEndorsement h k)) := by
  induction order using List.reverseRecOn with
  | nil => rfl
  | append_singleton order last ih =>
    rw [List.map_append, List.map_singleton, List.count_append]
    by_cases hlast : last = k
    · subst hlast
      rw [outcomesOf_concat_self, outcome_of_mem hp (Or.inl hk), ih, List.count_singleton_self,
        List.replicate_succ']
    · have hnone : [last].count k = 0 := List.count_eq_zero.mpr (by simpa using Ne.symm hlast)
      rw [outcomesOf_concat_of_ne _ (by simpa using hlast), ih, hnone, Nat.add_zero]

theorem outcomesOf_endorse_of_notMem {k : PublicKey} (hk : k ∉ p.endorsers)
    (order : List PublicKey) :
    t.outcomesOf (.endorse h k) (order.map (.endorse h)) = onlyFirst h k (order.count k) := by
  induction order using List.reverseRecOn with
  | nil => rfl
  | append_singleton order last ih =>
    rw [List.map_append, List.map_singleton, List.count_append]
    by_cases hlast : last = k
    · subst hlast
      rw [outcomesOf_concat_self, ih, List.count_singleton_self]
      -- The call is the first for its identity exactly when the order so far has none.
      cases hcount : order.count last with
      | zero =>
        have hnew : last ∉ order := List.count_eq_zero.mp hcount
        rw [outcome_of_notMem hp (not_or.mpr ⟨hk, hnew⟩)]
        rfl
      | succ n =>
        have hold : last ∈ order := List.count_pos_iff.mp (by omega)
        rw [outcome_of_mem hp (Or.inr hold), onlyFirst_succ_succ]
    · have hnone : [last].count k = 0 := List.count_eq_zero.mpr (by simpa using Ne.symm hlast)
      rw [outcomesOf_concat_of_ne _ (by simpa using hlast), ih, hnone, Nat.add_zero]

end Endorsements

/-- However the calls of several parties who endorse one pending proposal are interleaved, all those
for somebody who has endorsed it before are refused as duplicates, and so are those for anybody else
but the first one, which succeeds.  The new endorsers stand behind the old ones and are the same
ones in every interleaving, as many as calls have succeeded. -/
theorem endorsements_land_once (t : Tracker recovery) (h : Hash) (ks : List PublicKey)
    (hks : t.endorsers h = .ok ks) (parties : List (List PublicKey)) :
    let joining := newcomers ks parties.flatten
    (∀ k, k ∈ joining ↔ k ∉ ks ∧ ∃ calls ∈ parties, k ∈ calls) ∧ joining.Nodup ∧
    ∀ order, Interleaves parties order →
      let calls : List Call := order.map (.endorse h)
      let last := (t.run calls).2
      (∀ k ∈ ks, t.outcomesOf (.endorse h k) calls =
        List.replicate (parties.flatten.count k) (.error (.duplicateEndorsement h k))) ∧
      (∀ k ∈ joining, t.outcomesOf (.endorse h k) calls =
        .ok .done ::
          List.replicate (parties.flatten.count k - 1) (.error (.duplicateEndorsement h k))) ∧
      (∃ joined, joined.Perm joining ∧ last.endorsers h = .ok (ks ++ joined)) ∧
      last.endorserCount h = .ok (ks.length + joining.length) ∧
      (t.run calls).1.countP Except.isOk = joining.length := by
  obtain ⟨p, hp, rfl⟩ := pending_of_endorsers hks
  intro joining
  refine ⟨fun k => ?_, nodup_firsts _, fun order horder => ?_⟩
  · rw [mem_newcomers, List.mem_flatten]
  intro calls last
  have hperm : (newcomers p.endorsers order).Perm joining := newcomers_perm horder.perm
  have hshows := shows_of_some (pending_run_endorse hp order)
  refine ⟨fun k hk => ?_, fun k hk => ?_, ⟨_, hperm, hshows.endorsers⟩, ?_, ?_⟩
  · rw [← horder.perm.count_eq k]
    exact outcomesOf_endorse_of_mem hp hk order
  · obtain ⟨hnew, hasked⟩ := mem_newcomers.mp hk
    obtain ⟨n, hn⟩ : ∃ n, parties.flatten.count k = n + 1 :=
      Nat.exists_eq_succ_of_ne_zero (List.count_pos_iff.mpr hasked).ne'
    rw [outcomesOf_endorse_of_notMem hp hnew, horder.perm.count_eq k, hn, onlyFirst,
      Nat.add_sub_cancel]
  · rw [hshows.endorserCount, endorsers_concat, List.length_append, hperm.length_eq]
  · rw [countP_isOk_run_endorse hp, hperm.length_eq]

section Sample

/-- What two parties ask for, each with a repetition and one identity that has endorsed before. -/
def sampleParties : List (List PublicKey) :=
  [[sampleIdentity 3, sampleIdentity 2, sampleIdentity 3],
    [sampleIdentity 1, sampleIdentity 3, sampleIdentity 4]]

def sampleOrder : List PublicKey :=
  [sampleIdentity 1, sampleIdentity 3, sampleIdentity 3, sampleIdentity 2, sampleIdentity 4,
    sampleIdentity 3]

theorem interleaves_sampleOrder : Interleaves sampleParties sampleOrder :=
  .next [_] [] <| .next [] [_] <| .next [_] [] <| .next [] [_] <| .next [_] [] <|
    .next [] [_] <| .done (by simp)

theorem endorsers_sampleVotes :
    ((empty : Tracker sampleRecovery).run (sampleVotes 1 [sampleIdentity 2])).2.endorsers
      sampleHash = .ok [sampleIdentity 1, sampleIdentity 2] :=
  (shows_of_some (pending_sampleVotes (by decide) (by simp [empty]) (by decide))).endorsers

/-- Of the three calls for one identity the first succeeds, and two newcomers join two endorsers. -/
theorem endorsements_land_once_mixed :
    let t := ((empty : Tracker sampleRecovery).run (sampleVotes 1 [sampleIdentity 2])).2
    let last := (t.run (sampleOrder.map (.endorse sampleHash))).2
    t.endorsers sampleHash = .ok [sampleIdentity 1, sampleIdentity 2] ∧
    Interleaves sampleParties sampleOrder ∧
    t.outcomesOf (.endorse sampleHash (sampleIdentity 3))
        (sampleOrder.map (.endorse sampleHash)) =
      [.ok .done, .error (.duplicateEndorsement sampleHash (sampleIdentity 3)),
        .error (.duplicateEndorsement sampleHash (sampleIdentity 3))] ∧
    last.endorserCount sampleHash = .ok 4 := by
  intro t last
  obtain ⟨-, -, hland⟩ := endorsements_land_once t sampleHash _ endorsers_sampleVotes sampleParties
  obtain ⟨-, hnew, -, hcount, -⟩ := hland sampleOrder interleaves_sampleOrder
  exact ⟨endorsers_sampleVotes, interleaves_sampleOrder, hnew _ (by decide), hcount⟩

end Sample

end SlotConsensus.Tracker
