/-! The two prime moduli of the curve secp256k1: `prime`, of the field of its coordinates, and
`order`, the number of its points.  Powers are taken by squaring, inverses and square roots as
powers. -/

namespace SlotConsensus.Curve

def prime : Nat := 0xfffffffffffffffffffffffffffffffffffffffffffffffffffffffefffffc2f

def order : Nat := 0xfffffffffffffffffffffffffffffffebaaedce6af48a03bbfd25e8cd0364141

instance : @NeZero Nat Zero.ofOfNat0 prime := ⟨by decide⟩

instance : @NeZero Nat Zero.ofOfNat0 order := ⟨by decide⟩

/-- A coordinate of a point. -/
abbrev Coordinate := Fin prime

/-- A multiplier of points. -/
abbrev Scalar := Fin order

/-- The binary digits of `x`, most significant first. -/
def bits (x : Nat) : List Bool := (List.range (x.log2 + 1)).reverse.map x.testBit

/-- The power `a ^ e`, with one squaring for each binary digit of the exponent. -/
def power {m : Nat} (a : Fin m) (e : Nat) : Fin m :=
  (bits e).foldl (fun acc bit => if bit then acc * acc * a else acc * acc)
    ⟨1 % m, Nat.mod_lt 1 a.pos⟩

/-- The inverse modulo a prime, and zero of zero. -/
def inverse {m : Nat} (a : Fin m) : Fin m := power a (m - 2)

/-- A square root, if there is one: the prime is 3 modulo 4, so a square to the power
`(prime + 1) / 4` is a root of it. -/
def squareRoot? (a : Coordinate) : Option Coordinate :=
  let root := power a ((prime + 1) / 4)
  if root * root = a then some root else none

end SlotConsensus.Curve
