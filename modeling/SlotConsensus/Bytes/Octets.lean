/-! Byte strings of a fixed length.  `Octets n` is a list of bytes with a proof of its length, and
is ordered as its bytes are, from the first one on. -/

namespace SlotConsensus

/-- A string of exactly `n` bytes. -/
structure Octets (n : Nat) where
  toList : List UInt8
  length_eq : toList.length = n
  deriving DecidableEq

namespace Octets

variable {n : Nat}

@[ext] theorem ext {a b : Octets n} (h : a.toList = b.toList) : a = b := by
  cases a; cases b; cases h; rfl

@[simp] theorem length_toList (a : Octets n) : a.toList.length = n := a.length_eq

/-- The bytes of `l`, if there are exactly `n` of them. -/
def ofList? (n : Nat) (l : List UInt8) : Option (Octets n) :=
  if h : l.length = n then some ⟨l, h⟩ else none

@[simp] theorem ofList?_toList (a : Octets n) : ofList? n a.toList = some a := by
  simp [ofList?]

theorem ofList?_eq_some_iff {l : List UInt8} {a : Octets n} :
    ofList? n l = some a ↔ l = a.toList := by
  constructor
  · intro h
    unfold ofList? at h
    split at h
    · cases h; rfl
    · cases h
  · rintro rfl
    exact ofList?_toList a

/-- The string of `n` times the byte `b`. -/
def fill (n : Nat) (b : UInt8) : Octets n := ⟨List.replicate n b, List.length_replicate⟩

instance : Ord (Octets n) := ⟨fun a b => compare a.toList b.toList⟩

instance : Std.TransOrd (Octets n) where
  eq_swap {a b} := Std.OrientedOrd.eq_swap (a := a.toList) (b := b.toList)
  isLE_trans {a b c} := Std.TransOrd.isLE_trans (a := a.toList) (b := b.toList) (c := c.toList)

instance : Std.LawfulEqOrd (Octets n) where
  compare_self {a} := Std.ReflOrd.compare_self (a := a.toList)
  eq_of_compare h := ext (Std.LawfulEqOrd.eq_of_compare h)

end Octets

end SlotConsensus
