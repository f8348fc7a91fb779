import Mathlib.FieldTheory.Finite.Basic
import SlotConsensus.Curve.Point
import SlotConsensus.Proofs.Curve.Prime

/-! Points are read back from their short form.  A square has two roots, one the negation of the
other, and these differ in parity, so the parity that is written tells which of them was meant. -/

namespace SlotConsensus.Curve

theorem squareRoot?_eq_some_iff {a r : Coordinate} :
    squareRoot? a = some r ↔ r = power a ((prime + 1) / 4) ∧ r * r = a := by
  simp only [squareRoot?, Option.ite_none_right_eq_some, Option.some.injEq]
  -- As a variable, the power is not evaluated.
  generalize power a ((prime + 1) / 4) = root
  constructor
  · rintro ⟨hroot, rfl⟩
    exact ⟨rfl, hroot⟩
  · rintro ⟨rfl, hroot⟩
    exact ⟨hroot, rfl⟩

/-- What is found for a square is a root of it, as a residue to the power of the prime is that
residue. -/
theorem power_mul_power (y : Coordinate) :
    power (y * y) ((prime + 1) / 4) * power (y * y) ((prime + 1) / 4) = y * y := by
  have hexponent : 2 * ((prime + 1) / 4 * 2) = prime + 1 := by decide
  generalize (prime + 1) / 4 = e at hexponent
  apply residue_injective
  calc residue (power (y * y) e * power (y * y) e)
      = residue y ^ (2 * (e * 2)) := by
        rw [residue_mul, residue_power, residue_mul, ← pow_two, ← pow_two, ← pow_mul, ← pow_mul]
    _ = residue y ^ prime * residue y := by rw [hexponent, pow_succ]
    _ = residue (y * y) := by rw [ZMod.pow_card (p := prime), residue_mul]

/-- The root that is found of a square is the number that was squared or its negation. -/
theorem squareRoot?_mul_self (y : Coordinate) :
    ∃ r, squareRoot? (y * y) = some r ∧ (r = y ∨ r = -y) := by
  have hroot := power_mul_power y
  refine ⟨_, squareRoot?_eq_some_iff.mpr ⟨rfl, hroot⟩, ?_⟩
  have hsquare := congrArg residue hroot
  rw [residue_mul, residue_mul] at hsquare
  rcases mul_self_eq_mul_self_iff.mp hsquare with h | h
  · exact .inl (residue_injective h)
  · exact .inr (residue_injective (h.trans (residue_neg y).symm))

theorem neg_mul_neg_self (y : Coordinate) : -y * -y = y * y := by
  apply residue_injective
  rw [residue_mul, residue_neg, neg_mul_neg, residue_mul]

namespace Point

theorem isOdd_neg {y : Coordinate} (hy : y ≠ 0) : isOdd (-y) = !isOdd y := by
  have hpositive : 0 < y.val := Nat.pos_of_ne_zero fun h => hy (Fin.ext h)
  have hval : (-y).val = prime - y.val := by
    rw [Fin.val_neg', Nat.mod_eq_of_lt (Nat.sub_lt (by decide) hpositive)]
  have hprime : prime % 2 = 1 := by decide
  have hlt := y.isLt
  rw [isOdd, isOdd, hval, ← decide_not, decide_eq_decide]
  omega

theorem ofX?_onCurve {x : Coordinate} {odd : Bool} {p : Point} (h : ofX? x odd = some p) :
    p.onCurve = true := by
  obtain ⟨y, hy, rfl⟩ := Option.map_eq_some_iff.mp h
  have hroot := (squareRoot?_eq_some_iff.mp hy).2
  simp only [onCurve, decide_eq_true_eq]
  split
  · exact hroot
  · exact (neg_mul_neg_self y).trans hroot

/-- Whatever is read lies on the curve. -/
theorem decode?_onCurve {bytes : List UInt8} {p : Point} (h : decode? bytes = some p) :
    p.onCurve = true := by
  unfold decode? at h
  split at h
  · cases h
  split at h
  · split at h
    · obtain ⟨x, -, hx⟩ := Option.bind_eq_some_iff.mp h
      exact ofX?_onCurve hx
    · cases h
  split at h
  · obtain ⟨x, -, h⟩ := Option.bind_eq_some_iff.mp h
    obtain ⟨y, -, h⟩ := Option.bind_eq_some_iff.mp h
    rw [Option.ite_none_right_eq_some] at h
    obtain ⟨⟨-, hcurve⟩, hp⟩ := h
    cases hp
    exact hcurve
  · cases h

theorem ofX?_isOdd {p : Point} (h : p.onCurve = true) : ofX? p.x (isOdd p.y) = some p := by
  have hcurve : p.y * p.y = p.x * p.x * p.x + 7 := of_decide_eq_true h
  obtain ⟨r, hr, heq⟩ := squareRoot?_mul_self p.y
  rw [ofX?, ← hcurve, hr, Option.map_some]
  obtain ⟨x, y⟩ := p
  rcases heq with rfl | rfl
  · rw [if_pos rfl]
  -- Zero is its own negation and has one parity, so it is met whichever root is taken.
  · by_cases hy : y = 0
    · simp [hy]
    · rw [if_neg (by simp [isOdd_neg hy]), neg_neg]

theorem coordinate?_bigEndian (x : Coordinate) :
    coordinate? (Bytes.bigEndian 32 x.val) = some x := by
  have hx : Bytes.ofBigEndian (Bytes.bigEndian 32 x.val) = x.val := by
    rw [Bytes.ofBigEndian_bigEndian]
    exact Nat.mod_eq_of_lt (Nat.lt_trans x.isLt (by decide))
  simp [coordinate?, hx]

theorem decode?_short {tag : UInt8} (htag : tag = 2 ∨ tag = 3) (x : Coordinate) :
    decode? (tag :: Bytes.bigEndian 32 x.val) = ofX? x (tag == 3) := by
  simp [decode?, htag, coordinate?_bigEndian]

/-- A point of the curve is read from its short form. -/
theorem decode?_encode_of_onCurve {p : Point} (h : p.onCurve = true) :
    decode? p.encode.toList = some p := by
  have hread := ofX?_isOdd h
  cases hodd : isOdd p.y with
  | true => simpa [encode, hodd, decode?_short] using hread
  | false => simpa [encode, hodd, decode?_short] using hread

/-- A point that was read, in whichever form, is read back from its short form. -/
theorem decode?_encode {bytes : List UInt8} {p : Point} (h : decode? bytes = some p) :
    decode? p.encode.toList = some p :=
  decode?_encode_of_onCurve (decode?_onCurve h)

/-- The long form, with the tag that leaves the parity open. -/
def long (p : Point) : List UInt8 :=
  4 :: (Bytes.bigEndian 32 p.x.val ++ Bytes.bigEndian 32 p.y.val)

/-- A point of the curve is read from its long form. -/
theorem decode?_long {p : Point} (h : p.onCurve = true) : decode? p.long = some p := by
  have htake : (Bytes.bigEndian 32 p.x.val ++ Bytes.bigEndian 32 p.y.val).take 32 =
      Bytes.bigEndian 32 p.x.val := List.take_left' (Bytes.length_bigEndian 32 _)
  have hdrop : (Bytes.bigEndian 32 p.x.val ++ Bytes.bigEndian 32 p.y.val).drop 32 =
      Bytes.bigEndian 32 p.y.val := List.drop_left' (Bytes.length_bigEndian 32 _)
  simp [decode?, long, htake, hdrop, coordinate?_bigEndian, h]

end Point

end SlotConsensus.Curve
