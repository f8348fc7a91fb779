/-! The shortest decimal numbers that stand for doubles.  All numbers between the two midpoints to
a double's neighbours are read back as that double; the midpoints themselves are when its mantissa
is even.  Of these numbers the one with the fewest digits is taken, and of several such the
nearest to the double. -/

namespace SlotConsensus.Decimal

/-- A double and the numbers that are read back as it, as multiples of a common unit
`numerator / denominator`. -/
structure Span where
  low : Nat
  value : Nat
  high : Nat
  closed : Bool
  numerator : Nat
  denominator : Nat

/-- The span of the absolute value of a finite double. -/
def Span.ofFloat (x : Float) : Span :=
  let bits := x.toBits.toNat
  let fraction := bits % 0x10000000000000
  let exponent := bits / 0x10000000000000 % 0x800
  let mantissa := if exponent = 0 then fraction else fraction + 0x10000000000000
  let scale := max exponent 1
  { low := 4 * mantissa - if fraction = 0 ∧ 1 < exponent then 1 else 2
    value := 4 * mantissa
    high := 4 * mantissa + 2
    closed := mantissa % 2 = 0
    numerator := Nat.pow 2 (scale - 1077)
    denominator := Nat.pow 2 (1077 - scale) }

/-- The decimal number `digits * 10 ^ exponent`. -/
structure Number where
  digits : Nat
  exponent : Int

/-- Whether `d` is the nearer of the two points `d` and `d + 1` on the grid of multiples of
`step / unit`.  When both are equally near, it is the even one. -/
def nearerBelow (value unit d step : Nat) : Bool :=
  let twice := 2 * value * unit
  let middle := (2 * d + 1) * step
  twice < middle || (twice == middle && d % 2 == 0)

namespace Span

/-- The exponent of ten that the value starts with, for a value that is not zero. -/
def magnitude (s : Span) : Int :=
  let scaled := s.value * s.numerator * Nat.pow 10 400 / s.denominator
  Int.ofNat (Nat.toDigits 10 scaled).length - 401

/-- The point of the grid of multiples of `10 ^ exponent` that is read back as the double, the
nearest one if there are several. -/
def onGrid? (s : Span) (exponent : Int) : Option Number :=
  let unit := s.numerator * Nat.pow 10 (-exponent).toNat
  let step := s.denominator * Nat.pow 10 exponent.toNat
  let d := s.value * unit / step
  let holds (d : Nat) : Bool :=
    if s.closed then s.low * unit ≤ d * step && d * step ≤ s.high * unit
    else s.low * unit < d * step && d * step < s.high * unit
  match holds d, holds (d + 1) with
  | true, true => some ⟨if nearerBelow s.value unit d step then d else d + 1, exponent⟩
  | true, false => some ⟨d, exponent⟩
  | false, true => some ⟨d + 1, exponent⟩
  | false, false => none

/-- Seventeen digits are always enough. -/
def shortest (s : Span) : Number :=
  let grids := (List.range 17).map fun n => s.magnitude - Int.ofNat n
  (grids.findSome? s.onGrid?).getD ⟨0, 0⟩

end Span

end SlotConsensus.Decimal
