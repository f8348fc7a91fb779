import SlotConsensus.Curve.Multiple
import SlotConsensus.Curve.Nonce

/-! Signatures from which the signer's point can be recovered.  A signature holds the scalar `r`,
which is the `x` of a point modulo the order, what `r` leaves open about that point, and the scalar
`s`, which ties the point to the signer and the message. -/

namespace SlotConsensus.Curve

/-- The scalar written as 32 bytes, most significant first, if it is below the order. -/
def scalar? (bytes : List UInt8) : Option Scalar :=
  let v := Bytes.ofBigEndian bytes
  if h : v < order then some ⟨v, h⟩ else none

/-- The scalar that a digest stands for: its number modulo the order. -/
def scalarOfDigest (digest : List UInt8) : Scalar := Fin.ofNat order (Bytes.ofBigEndian digest)

/-- `odd` is the parity of the point's `y`, and `wrapped` says that its `x` is `r` plus the
order. -/
structure Recoverable where
  r : Scalar
  s : Scalar
  odd : Bool
  wrapped : Bool

namespace Recoverable

/-- The signature made with the secret multiplier `k`, unless it would be degenerate.  Of `s` and
`-s` the smaller is taken. -/
def signWith? (secret message k : Scalar) : Option Recoverable := do
  let p ← (Projective.multiple k (.ofPoint .base)).toPoint?
  let r : Scalar := Fin.ofNat order p.x.val
  let s := inverse k * (message + r * secret)
  if r = 0 ∨ s = 0 then none
  else
    let high := order / 2 < s.val
    some ⟨r, if high then -s else s, Point.isOdd p.y != high, order ≤ p.x.val⟩

/-- How many candidates for the multiplier are tried.  One is refused with a probability below
`2 ^ (-127)`. -/
def attempts : Nat := 64

/-- The signature over a digest of 32 bytes. -/
def sign? (secret : Scalar) (digest : List UInt8) : Option Recoverable :=
  let message := scalarOfDigest digest
  let accept candidate := do
    let k ← scalar? candidate
    if k = 0 then none else signWith? secret message k
  (NonceSource.ofSeed (Bytes.bigEndian 32 secret.val ++ Bytes.bigEndian 32 message.val)).first?
    accept attempts

/-- The point of the signer over a digest of 32 bytes. -/
def signer? (sig : Recoverable) (digest : List UInt8) : Option Point := do
  let x := sig.r.val + if sig.wrapped then order else 0
  if sig.r = 0 ∨ sig.s = 0 then none
  else if h : x < prime then
    let p ← Point.ofX? ⟨x, h⟩ sig.odd
    let i := inverse sig.r
    let u := -(i * scalarOfDigest digest)
    let v := i * sig.s
    (Projective.add (.multiple u (.ofPoint .base)) (.multiple v (.ofPoint p))).toPoint?
  else none

end Recoverable

end SlotConsensus.Curve
