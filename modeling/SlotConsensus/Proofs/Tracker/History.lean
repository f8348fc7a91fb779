import Mathlib.Data.List.Induction
import SlotConsensus.Proofs.Tracker.Effect
import SlotConsensus.Roster

/-! The tracker says what its history says.  The history of a run is its calls with their outcomes.
A hash is pending when it was accepted and not removed since it was accepted last, and then the
block of that call and the endorsements asked for since decide every answer about it. -/

namespace SlotConsensus.Tracker

/-- A call together with its outcome. -/
structure Event where
  call : Call
  outcome : Outcome

namespace Event

def Accepts (h : Hash) (b : SignedBlock) (e : Event) : Prop := e = ⟨.submit b, .ok (.tracked h)⟩

def Removes (h : Hash) (e : Event) : Prop := ∃ p, e = ⟨.remove h, .ok (.removed p)⟩

/-- The identity that the call would add to the endorsers under `h`, whether it succeeds or not. -/
def endorsersOf (h : Hash) (e : Event) : List PublicKey :=
  match e.call with
  | .endorse g k => if g = h then [k] else []
  | _ => []

end Event

variable {recovery : Recovery}

/-- The calls of a run with their outcomes, in order. -/
def history (t : Tracker recovery) (calls : List Call) : List Event :=
  List.zipWith Event.mk calls (t.run calls).1

/-- In the history, `b` was accepted under `h`, and since then, in the events `since`, no block was
accepted and none removed under it. -/
structure Current (past : List Event) (h : Hash) (b : SignedBlock) (since : List Event) : Prop where
  accepted : ∃ before, past = before ++ ⟨.submit b, .ok (.tracked h)⟩ :: since
  latest : ∀ e ∈ since, ∀ b', ¬e.Accepts h b'
  kept : ∀ e ∈ since, ¬e.Removes h

/-- The identities that the events ask to count as endorsers under `h`, in order. -/
def endorsedIn (h : Hash) (since : List Event) : List PublicKey :=
  since.flatMap (Event.endorsersOf h)

/-! ### Histories that grow by one event -/

theorem length_run (t : Tracker recovery) (calls : List Call) :
    (t.run calls).1.length = calls.length := by
  induction calls generalizing t with
  | nil => rfl
  | cons c rest ih => simp [run, ih]

theorem run_concat (t : Tracker recovery) (calls : List Call) (c : Call) :
    t.run (calls ++ [c]) =
      ((t.run calls).1 ++ [((t.run calls).2.step c).1], ((t.run calls).2.step c).2) := by
  induction calls generalizing t with
  | nil => rfl
  | cons d rest ih => simp only [List.cons_append, run, ih]

theorem history_concat (t : Tracker recovery) (calls : List Call) (c : Call) :
    t.history (calls ++ [c]) = t.history calls ++ [⟨c, ((t.run calls).2.step c).1⟩] := by
  rw [history, run_concat, List.zipWith_append (t.length_run calls).symm]
  rfl

section Current

variable {past since : List Event} {h : Hash} {b : SignedBlock} {e : Event}

theorem not_current_nil : ¬Current [] h b since := by
  rintro ⟨⟨before, hsplit⟩, -, -⟩
  simp at hsplit

/-- The last event of a history is the latest acceptance, or it comes after that and neither accepts
nor removes. -/
theorem current_concat_iff :
    Current (past ++ [e]) h b since ↔
      since = [] ∧ e.Accepts h b ∨
      ∃ rest, since = rest ++ [e] ∧ Current past h b rest ∧ (∀ b', ¬e.Accepts h b') ∧
        ¬e.Removes h := by
  constructor
  · rintro ⟨⟨before, hsplit⟩, hlatest, hkept⟩
    rcases List.eq_nil_or_concat since with rfl | ⟨rest, last, rfl⟩
    · obtain ⟨-, he⟩ := List.append_inj' hsplit rfl
      exact Or.inl ⟨rfl, List.singleton_inj.mp he⟩
    · rw [List.concat_eq_append, ← List.cons_append, ← List.append_assoc] at hsplit
      obtain ⟨hpast, he⟩ := List.append_inj' hsplit rfl
      obtain rfl := List.singleton_inj.mp he
      rw [List.concat_eq_append] at hlatest hkept ⊢
      refine Or.inr ⟨rest, rfl, ⟨⟨before, hpast⟩, fun d hd => hlatest d ?_, fun d hd => hkept d ?_⟩,
        hlatest e ?_, hkept e ?_⟩ <;> simp [*]
  · rintro (⟨rfl, rfl⟩ | ⟨rest, rfl, ⟨⟨before, rfl⟩, hlatest, hkept⟩, haccepts, hremoves⟩)
    · exact ⟨⟨past, rfl⟩, by simp, by simp⟩
    · refine ⟨⟨before, by simp⟩, fun d hd => ?_, fun d hd => ?_⟩
      · rcases List.mem_append.mp hd with hd | hd
        · exact hlatest d hd
        · rw [List.mem_singleton.mp hd]
          exact haccepts
      · rcases List.mem_append.mp hd with hd | hd
        · exact hkept d hd
        · rw [List.mem_singleton.mp hd]
          exact hremoves

/-- A history has one latest acceptance at most. -/
theorem Current.unique {b' : SignedBlock} {since' : List Event} (h1 : Current past h b since)
    (h2 : Current past h b' since') : b = b' ∧ since = since' := by
  induction past using List.reverseRecOn generalizing since since' with
  | nil => exact absurd h1 not_current_nil
  | append_singleton past e ih =>
    rcases current_concat_iff.mp h1 with ⟨rfl, he⟩ | ⟨rest, rfl, hrest, hother, -⟩
    · rcases current_concat_iff.mp h2 with ⟨rfl, he'⟩ | ⟨-, -, -, hother', -⟩
      · cases he.symm.trans he'
        exact ⟨rfl, rfl⟩
      · exact absurd he (hother' b)
    · rcases current_concat_iff.mp h2 with ⟨rfl, he'⟩ | ⟨rest', rfl, hrest', -, -⟩
      · exact absurd he' (hother b')
      · obtain ⟨hb, hsince⟩ := ih hrest hrest'
        exact ⟨hb, by rw [hsince]⟩

end Current

/-! ### What is pending is what the history says -/

/-- What is pending under `h` is accounted for by the history. -/
def Explains (recovery : Recovery) (past : List Event) (h : Hash) : Option Proposal → Prop
  | none => ∀ b since, ¬Current past h b since
  | some p => ∃ since, Current past h p.block since ∧
      recovery p.block.signature h = .ok p.proposer ∧
      p.endorsers = firsts (p.proposer :: endorsedIn h since)

theorem endorsedIn_concat (h : Hash) (since : List Event) (e : Event) :
    endorsedIn h (since ++ [e]) = endorsedIn h since ++ e.endorsersOf h := by
  simp [endorsedIn]

section Explains

variable {past since : List Event} {h : Hash} {c : Call} {o : Outcome} {p : Proposal}

/-- A proposal stays accounted for when somebody who endorsed it asks to do so again, and when the
event is not about its endorsers. -/
theorem firsts_keep (hends : p.endorsers = firsts (p.proposer :: endorsedIn h since))
    (hkeep : ∀ k, c = .endorse h k → k ∈ p.endorsers) :
    p.endorsers = firsts (p.proposer :: endorsedIn h (since ++ [⟨c, o⟩])) := by
  rw [endorsedIn_concat]
  cases c with
  | endorse g k =>
    by_cases hg : g = h
    · subst hg
      have hmem := hkeep k rfl
      rw [hends, mem_firsts] at hmem
      simp only [Event.endorsersOf, ↓reduceIte, ← List.cons_append]
      rw [firsts_concat, if_pos hmem, hends]
    · simpa [Event.endorsersOf, hg] using hends
  | _ => simpa [Event.endorsersOf] using hends

theorem Explains.step {before after : Option Proposal} (hx : Explains recovery past h before)
    (heffect : Effect recovery h c o before after) :
    Explains recovery (past ++ [⟨c, o⟩]) h after := by
  cases heffect with
  | @submit b k hb hmatches hk =>
    refine ⟨[], current_concat_iff.mpr (Or.inl ⟨rfl, rfl⟩), hk, ?_⟩
    rfl
  | @endorse p k hnew =>
    obtain ⟨since, hcurrent, hproposer, hends⟩ := hx
    refine ⟨since ++ [⟨.endorse h k, .ok .done⟩],
      current_concat_iff.mpr (Or.inr ⟨since, rfl, hcurrent, ?_, ?_⟩), hproposer, ?_⟩
    · simp [Event.Accepts]
    · simp [Event.Removes]
    · rw [hends, mem_firsts] at hnew
      simp only [endorsedIn_concat, Event.endorsersOf, ↓reduceIte, ← List.cons_append]
      rw [firsts_concat, if_neg hnew, ← hends]
      rfl
  | @remove p =>
    -- Whatever was accepted before is no longer current, and a removal accepts nothing.
    intro b since hcurrent
    rcases current_concat_iff.mp hcurrent with ⟨-, he⟩ | ⟨-, -, -, -, hremoves⟩
    · simp [Event.Accepts] at he
    · exact hremoves ⟨p, rfl⟩
  | keep haccepts hremoves hendorsers =>
    have hother : ∀ b, ¬Event.Accepts h b ⟨c, o⟩ := by
      intro b he
      cases he
      exact haccepts b rfl rfl
    have hkept : ¬Event.Removes h ⟨c, o⟩ := by
      rintro ⟨p, he⟩
      cases he
      exact hremoves p rfl rfl
    cases before with
    | none =>
      intro b since hcurrent
      rcases current_concat_iff.mp hcurrent with ⟨-, he⟩ | ⟨rest, -, hrest, -, -⟩
      · exact hother b he
      · exact hx b rest hrest
    | some p =>
      obtain ⟨since, hcurrent, hproposer, hends⟩ := hx
      exact ⟨since ++ [⟨c, o⟩],
        current_concat_iff.mpr (Or.inr ⟨since, rfl, hcurrent, hother, hkept⟩), hproposer,
        firsts_keep hends fun k hc => hendorsers p k rfl hc⟩

end Explains

/-- After every run, what is pending is what the history of the run says. -/
theorem explains_run (recovery : Recovery) (calls : List Call) (h : Hash) :
    Explains recovery ((empty : Tracker recovery).history calls) h
      ((empty : Tracker recovery).run calls).2.pending[h]? := by
  induction calls using List.reverseRecOn with
  | nil =>
    have hnone : ((empty : Tracker recovery).run []).2.pending[h]? = none := by
      simp [run, empty]
    rw [hnone]
    exact fun b since => not_current_nil
  | append_singleton calls c ih =>
    rw [history_concat, run_concat]
    exact ih.step (step_effect _ c h)

/-- The answers of a tracker after any run from the empty tracker are those that its history gives.
A hash is pending when it was accepted and not removed since it was accepted last.  Then its block
is the one accepted by that call, and its endorsers are the proposer and, each of them once, all who
asked to endorse it since.  A hash that is not pending is unknown. -/
theorem run_history (recovery : Recovery) (calls : List Call) :
    let t := ((empty : Tracker recovery).run calls).2
    let past := (empty : Tracker recovery).history calls
    (t.waiting.Nodup ∧ t.size = t.waiting.length ∧ t.isEmpty = t.waiting.isEmpty) ∧
    ∀ h,
      (h ∈ t.waiting ↔ ∃ b since, Current past h b since) ∧
      (∀ b since, Current past h b since → ∃ k, recovery b.signature h = .ok k ∧
        t.Shows h b (firsts (k :: endorsedIn h since))) ∧
      (h ∉ t.waiting → t.Unaware h) := by
  intro t past
  refine ⟨⟨nodup_waiting, length_waiting.symm, isEmpty_waiting.symm⟩, fun h => ?_⟩
  have hx := explains_run recovery calls h
  have hwaiting : h ∈ t.waiting ↔ t.pending[h]?.isSome := mem_waiting_iff
  cases hpending : t.pending[h]? with
  | none =>
    rw [hpending] at hx hwaiting
    have hnot : h ∉ t.waiting := by simp [hwaiting]
    exact ⟨⟨fun hmem => absurd hmem hnot, fun ⟨b, since, hcurrent⟩ => absurd hcurrent (hx b since)⟩,
      fun b since hcurrent => absurd hcurrent (hx b since), fun _ => unaware_of_none hpending⟩
  | some p =>
    rw [hpending] at hx hwaiting
    have hmem : h ∈ t.waiting := hwaiting.mpr rfl
    obtain ⟨since, hcurrent, hproposer, hends⟩ := hx
    refine ⟨iff_of_true hmem ⟨p.block, since, hcurrent⟩, fun b' since' hcurrent' => ?_,
      fun hnot => absurd hmem hnot⟩
    obtain ⟨rfl, rfl⟩ := hcurrent.unique hcurrent'
    refine ⟨p.proposer, hproposer, ?_⟩
    rw [← hends]
    exact shows_of_some hpending

end SlotConsensus.Tracker
