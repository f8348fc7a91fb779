import SlotConsensus.Curve.Point

/-! Sums and multiples of points in projective coordinates: `(x, y, z)` stands for the point
`(x / z ^ 2, y / z ^ 3)`, and for the point at infinity when `z` is zero. -/

namespace SlotConsensus.Curve

structure Projective where
  x : Coordinate
  y : Coordinate
  z : Coordinate

namespace Projective

def infinity : Projective := ⟨1, 1, 0⟩

def ofPoint (p : Point) : Projective := ⟨p.x, p.y, 1⟩

/-- The point itself, unless it is the one at infinity. -/
def toPoint? (p : Projective) : Option Point :=
  if p.z = 0 then none
  else
    let i := inverse p.z
    some ⟨p.x * (i * i), p.y * (i * i * i)⟩

def double (p : Projective) : Projective :=
  let yy := p.y * p.y
  let d := 4 * p.x * yy
  let e := 3 * p.x * p.x
  let x := e * e - 2 * d
  ⟨x, e * (d - x) - 8 * yy * yy, 2 * p.y * p.z⟩

def add (p q : Projective) : Projective :=
  if p.z = 0 then q
  else if q.z = 0 then p
  else
    let pp := p.z * p.z
    let qq := q.z * q.z
    let u := p.x * qq
    let s := p.y * qq * q.z
    let h := q.x * pp - u
    let r := q.y * pp * p.z - s
    if h = 0 then
      if r = 0 then double p else infinity
    else
      let hh := h * h
      let hhh := h * hh
      let v := u * hh
      let x := r * r - hhh - 2 * v
      ⟨x, r * (v - x) - s * hhh, h * p.z * q.z⟩

/-- The sum of `k` copies of a point, with one doubling for each binary digit of `k`. -/
def multiple (k : Scalar) (p : Projective) : Projective :=
  (bits k.val).foldl (fun acc bit => if bit then add (double acc) p else double acc) infinity

end Projective

end SlotConsensus.Curve
