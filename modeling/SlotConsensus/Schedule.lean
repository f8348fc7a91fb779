import SlotConsensus.Checked
import SlotConsensus.Roster

/-! Schedules: time is cut into slots that start at the multiples of an interval, and into epochs
of a whole number of slots.  In each epoch the members of the roster lead its slots in turn, from
the first member on. -/

namespace SlotConsensus

/-- An interval and an epoch of one or more such intervals. -/
structure Schedule where
  interval : UInt64
  epochLength : UInt64
  interval_pos : 0 < interval.toNat
  epochLength_pos : 0 < epochLength.toNat
  interval_dvd : interval.toNat ∣ epochLength.toNat

namespace Schedule

/-- Slots of ten seconds in epochs of a day. -/
def standard : Schedule where
  interval := 10
  epochLength := 86400
  interval_pos := by decide
  epochLength_pos := by decide
  interval_dvd := by decide

def ofLengths (interval epochLength : UInt64) : Except ConsensusError Schedule :=
  if hi : interval.toNat = 0 then .error (.config .zeroInterval)
  else if he : 0 < epochLength.toNat ∧ interval.toNat ∣ epochLength.toNat then
    .ok ⟨interval, epochLength, by omega, he.1, he.2⟩
  else .error (.config (.raggedEpoch epochLength interval))

/-- The last slot before `now`, or the first slot of all when `now` is zero. -/
def prevSlot (s : Schedule) (now : Timestamp) : Timestamp :=
  (if now = 0 then 0 else now - 1) / s.interval * s.interval

/-- The last slot of all. -/
def lastSlot (s : Schedule) : Timestamp :=
  0xffffffffffffffff / s.interval * s.interval

/-- The first slot that is not before `now`, or the last slot of all when there is none. -/
def nextSlot (s : Schedule) (now : Timestamp) : Timestamp :=
  let count := now / s.interval + if now % s.interval = 0 then 0 else 1
  match Checked.mul count s.interval with
  | .ok slot => slot
  | .error _ => s.lastSlot

/-- The place of a slot in its epoch, counted from zero. -/
def slotIndex (s : Schedule) (slot : Timestamp) : Except ConsensusError UInt64 :=
  let offset := slot % s.epochLength
  if offset % s.interval = 0 then .ok (offset / s.interval) else .error (.unaligned slot)

/-- The member of the roster who leads a slot. -/
def leader (s : Schedule) (slot : Timestamp) (roster : Roster) :
    Except ConsensusError PublicKey := do
  let index ← s.slotIndex slot
  if h : roster.members.length = 0 then .error .emptyRoster
  else
    have := Nat.mod_lt index.toNat (Nat.pos_of_ne_zero h)
    .ok roster.members[index.toNat % roster.members.length]

/-- Whether a block may follow, in the slot before `now`, one with the timestamp `last`. -/
def checkDeadline (s : Schedule) (last now : Timestamp) : Except ConsensusError Unit :=
  if s.nextSlot now ≤ last then .error (.futureBlock last (s.nextSlot now))
  else if s.prevSlot now ≤ last then .error (.occupiedSlot (s.prevSlot now))
  else .ok ()

end Schedule

end SlotConsensus
