import SlotConsensus.Tracker.Basic

/-! Runs of a tracker: calls, their answers, and what a sequence of calls leaves behind.  A call
that fails changes nothing. -/

namespace SlotConsensus.Tracker

inductive Call
  | submit (block : SignedBlock)
  | endorse (hash : Hash) (validator : PublicKey)
  | remove (hash : Hash)
  | endorserCount (hash : Hash)
  | checkEndorsed (hash : Hash) (validator : PublicKey)
  | block (hash : Hash)
  | endorsers (hash : Hash)
  | waiting
  deriving DecidableEq

/-- The hash of the proposal that a call is about.  Asking for the waiting proposals is about all of
them. -/
def Call.target : Call → Option Hash
  | .submit b => some b.hash
  | .endorse h _ | .remove h | .endorserCount h | .checkEndorsed h _ | .block h | .endorsers h =>
    some h
  | .waiting => none

inductive Answer
  | done
  | tracked (hash : Hash)
  | removed (proposal : Proposal)
  | count (endorsers : Nat)
  | block (block : SignedBlock)
  | endorsers (validators : List PublicKey)
  | waiting (hashes : List Hash)
  deriving DecidableEq

variable {recovery : Recovery}

/-- The outcome of a call and the tracker after it. -/
def step (t : Tracker recovery) : Call → Except ConsensusError Answer × Tracker recovery
  | .submit b =>
    match t.submit b with
    | .ok (h, after) => (.ok (.tracked h), after)
    | .error e => (.error e, t)
  | .endorse h k =>
    match t.endorse h k with
    | .ok after => (.ok .done, after)
    | .error e => (.error e, t)
  | .remove h =>
    match t.remove h with
    | .ok (p, after) => (.ok (.removed p), after)
    | .error e => (.error e, t)
  | .endorserCount h => ((t.endorserCount h).map .count, t)
  | .checkEndorsed h k => ((t.checkEndorsed h k).map fun _ => .done, t)
  | .block h => ((t.block h).map .block, t)
  | .endorsers h => ((t.endorsers h).map .endorsers, t)
  | .waiting => (.ok (.waiting t.waiting), t)

/-- The outcomes of calls made one after the other, and the tracker after the last of them. -/
def run (t : Tracker recovery) :
    List Call → List (Except ConsensusError Answer) × Tracker recovery
  | [] => ([], t)
  | c :: rest =>
    let (outcome, after) := t.step c
    let (outcomes, last) := after.run rest
    (outcome :: outcomes, last)

end SlotConsensus.Tracker
