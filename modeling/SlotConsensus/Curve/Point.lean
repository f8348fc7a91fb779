import SlotConsensus.Bytes.Endian
import SlotConsensus.Bytes.Octets
import SlotConsensus.Curve.Field

/-! The points of the curve `y ^ 2 = x ^ 3 + 7` other than the one at infinity, and their byte
forms: the short form gives `x` and the parity of `y`, the long form both coordinates. -/

namespace SlotConsensus.Curve

/-- A pair of coordinates. -/
structure Point where
  x : Coordinate
  y : Coordinate
  deriving DecidableEq

namespace Point

def isOdd (y : Coordinate) : Bool := y.val % 2 = 1

def onCurve (p : Point) : Bool := p.y * p.y = p.x * p.x * p.x + 7

/-- The point with the given `x` whose `y` has the given parity. -/
def ofX? (x : Coordinate) (odd : Bool) : Option Point :=
  (squareRoot? (x * x * x + 7)).map fun y => ⟨x, if isOdd y = odd then y else -y⟩

/-- The point that generates all others. -/
def base : Point where
  x := 0x79be667ef9dcbbac55a06295ce870b07029bfcdb2dce28d959f2815b16f81798
  y := 0x483ada7726a3c4655da4fbfc0e1108a8fd17b448a68554199c47d08ffb10d4b8

/-! ### Byte forms -/

/-- The coordinate written as 32 bytes, most significant first, if it is below the prime. -/
def coordinate? (bytes : List UInt8) : Option Coordinate :=
  let v := Bytes.ofBigEndian bytes
  if h : v < prime then some ⟨v, h⟩ else none

/-- The point in the short form of 33 bytes or in the long form of 65 bytes.  The first byte of a
long form may also tell the parity of `y`, which then has to be right. -/
def decode? (bytes : List UInt8) : Option Point := do
  match bytes with
  | [] => none
  | tag :: rest =>
    if rest.length = 32 then
      if tag = 2 ∨ tag = 3 then ofX? (← coordinate? rest) (tag == 3) else none
    else if rest.length = 64 then
      let p : Point := ⟨← coordinate? (rest.take 32), ← coordinate? (rest.drop 32)⟩
      let tagFits := tag = 4 ∨ (tag = 6 ∧ !isOdd p.y) ∨ (tag = 7 ∧ isOdd p.y)
      if tagFits ∧ p.onCurve then some p else none
    else none

/-- The short form. -/
def encode (p : Point) : Octets 33 :=
  ⟨(if isOdd p.y then 3 else 2) :: Bytes.bigEndian 32 p.x.val, by simp⟩

end Point

end SlotConsensus.Curve
