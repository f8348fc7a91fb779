import Mathlib.NumberTheory.LucasPrimality
import Mathlib.Tactic.NormNum.Prime
import SlotConsensus.Curve.Field

/-! The modulus of the coordinates is a prime.  A number `m` is prime if some residue is 1 when it
is raised to `m - 1`, but not when it is raised to a quotient of `m - 1` by one of its prime
factors.  The factors are shown to be primes in the same way, down to those that are small enough to
be tried. -/

namespace SlotConsensus.Curve

/-- The number that binary digits go on to from `n`, most significant first. -/
def appendBits (n : Nat) (digits : List Bool) : Nat :=
  digits.foldl (fun n bit => 2 * n + bit.toNat) n

theorem appendBits_testBit (x n : Nat) :
    ∀ k, appendBits n ((List.range k).reverse.map x.testBit) = n * 2 ^ k + x % 2 ^ k := by
  intro k
  induction k generalizing n with
  | zero => simp [appendBits, Nat.mod_one]
  | succ k ih =>
    have hstep : appendBits n ((List.range (k + 1)).reverse.map x.testBit) =
        appendBits (2 * n + (x.testBit k).toNat) ((List.range k).reverse.map x.testBit) := by
      rw [List.range_succ, List.reverse_append, List.reverse_singleton, List.singleton_append,
        List.map_cons, appendBits, List.foldl_cons]
      rfl
    rw [hstep, ih, Nat.toNat_testBit, Nat.mod_pow_succ]
    ring

theorem appendBits_bits (x : Nat) : appendBits 0 (bits x) = x := by
  rw [bits, appendBits_testBit, Nat.zero_mul, Nat.zero_add, Nat.mod_eq_of_lt Nat.lt_log2_self]

section Power

variable {m : Nat}

/-- The residue as an element of the ring of them. -/
def residue (a : Fin m) : ZMod m := (a.val : ZMod m)

theorem residue_injective {a b : Fin m} (h : residue a = residue b) : a = b := by
  have hval := (ZMod.natCast_eq_natCast_iff' a.val b.val m).mp h
  rwa [Nat.mod_eq_of_lt a.isLt, Nat.mod_eq_of_lt b.isLt, Fin.val_inj] at hval

@[simp] theorem residue_mul (a b : Fin m) : residue (a * b) = residue a * residue b := by
  rw [residue, Fin.val_mul, ZMod.natCast_mod, Nat.cast_mul]
  rfl

@[simp] theorem residue_neg (a : Fin m) : residue (-a) = -residue a := by
  rw [residue, Fin.val_neg', ZMod.natCast_mod, Nat.cast_sub (Nat.le_of_lt a.isLt),
    ZMod.natCast_self, zero_sub]
  rfl

/-- What the powers of `a` start from is one. -/
theorem residue_one (a : Fin m) : residue (⟨1 % m, Nat.mod_lt 1 a.pos⟩ : Fin m) = 1 := by
  rw [residue, ZMod.natCast_mod, Nat.cast_one]

/-- Squaring for each binary digit of the exponent gives the power. -/
theorem residue_power (a : Fin m) (e : Nat) : residue (power a e) = residue a ^ e := by
  -- The digits that were read so far make up the exponent `n` of `acc`.
  have hfold : ∀ (digits : List Bool) (acc : Fin m) (n : Nat), residue acc = residue a ^ n →
      residue (digits.foldl (fun acc bit => if bit then acc * acc * a else acc * acc) acc) =
        residue a ^ appendBits n digits := by
    intro digits
    induction digits with
    | nil => intro acc n h; exact h
    | cons bit rest ih =>
      intro acc n h
      rw [List.foldl_cons]
      refine ih _ (2 * n + bit.toNat) ?_
      cases bit with
      | false =>
        simp only [Bool.false_eq_true, if_false, residue_mul, h, Bool.toNat_false]
        ring
      | true =>
        simp only [if_true, residue_mul, h, Bool.toNat_true]
        ring
  rw [power, hfold _ _ 0 ((residue_one a).trans (pow_zero _).symm), appendBits_bits]

end Power

/-! ### Certificates -/

/-- A residue of the number that is 1 when it is raised to the product of the factors, which is one
less than the number, but not when one of them is left out. -/
structure Certificate where
  number : Nat
  base : Fin number
  factors : List Nat
  product : factors.prod = number - 1 := by decide +kernel
  one : power base (number - 1) = ⟨1 % number, Nat.mod_lt 1 base.pos⟩ := by decide +kernel
  other : ∀ q ∈ factors, power base ((number - 1) / q) ≠ ⟨1 % number, Nat.mod_lt 1 base.pos⟩ := by
    decide +kernel

/-- The powers of the residue are `number - 1` different ones, as many as there are residues other
than zero. -/
theorem Certificate.prime (c : Certificate) (hprimes : ∀ q ∈ c.factors, q.Prime) :
    c.number.Prime := by
  refine lucas_primality c.number (residue c.base) ?_ ?_
  · rw [← residue_power, c.one, residue_one c.base]
  · intro q hq hdvd hpower
    rw [← c.product] at hdvd
    obtain ⟨r, hr, hqr⟩ := (Prime.dvd_prod_iff hq.prime).mp hdvd
    obtain rfl := (Nat.prime_dvd_prime_iff_eq hq (hprimes r hr)).mp hqr
    rw [← residue_power, ← residue_one c.base] at hpower
    exact c.other q hr (residue_injective hpower)

/-- The factors of each number are known, or are numbers before it. -/
def Chained : List Nat → List Certificate → Prop
  | _, [] => True
  | known, c :: rest => (∀ q ∈ c.factors, q ∈ known) ∧ Chained (c.number :: known) rest

instance decidableChained : (known : List Nat) → (chain : List Certificate) →
    Decidable (Chained known chain)
  | _, [] => .isTrue trivial
  | known, c :: rest =>
    have := decidableChained (c.number :: known) rest
    inferInstanceAs (Decidable ((∀ q ∈ c.factors, q ∈ known) ∧ Chained (c.number :: known) rest))

theorem prime_of_chained {known : List Nat} {chain : List Certificate} {p : Nat}
    (hknown : ∀ q ∈ known, q.Prime) (h : Chained known chain)
    (hp : p ∈ chain.map Certificate.number) : p.Prime := by
  induction chain generalizing known with
  | nil => cases hp
  | cons c rest ih =>
    obtain ⟨hfactors, hrest⟩ := h
    have hc : c.number.Prime := c.prime fun q hq => hknown q (hfactors q hq)
    rcases List.mem_cons.mp hp with rfl | hp
    · exact hc
    · exact ih (List.forall_mem_cons.mpr ⟨hc, hknown⟩) hrest hp

/-! ### The prime -/

/-- The factors that are small enough to be tried. -/
def smallPrimes : List Nat :=
  [2, 3, 5, 7, 11, 29, 31, 1627, 2621, 2657, 4423, 5323, 7723, 13441, 24809, 41201, 96557, 7240687,
    13331831, 107590001]

theorem prime_of_mem_smallPrimes : ∀ q ∈ smallPrimes, q.Prime := by
  simp only [smallPrimes, List.forall_mem_cons]
  norm_num

/-- The prime and the factors that are too large to be tried. -/
def certificates : List Certificate :=
  [ { number := 173378833005251801
      base := 6
      factors := [2, 2, 2, 5, 5, 2621, 24809, 13331831] },
    { number := 22149492674086928081353
      base := 5
      factors := [2, 2, 2, 3, 5323, 173378833005251801] },
    { number := 132896956044521568488119
      base := 6
      factors := [2, 3, 22149492674086928081353] },
    { number := 255515944373312847190720520512484175977
      base := 3
      factors := [2, 2, 2, 7, 7, 11, 1627, 2657, 4423, 41201, 96557, 7240687, 107590001] },
    { number := 205115282021455665897114700593932402728804164701536103180137503955397371
      base := 10
      factors := [2, 3, 5, 29, 29, 31, 7723, 132896956044521568488119,
        255515944373312847190720520512484175977] },
    { number := prime
      base := 3
      factors := [2, 3, 7, 13441,
        205115282021455665897114700593932402728804164701536103180137503955397371] }]

/-- The coordinates make a field. -/
theorem prime_prime : prime.Prime :=
  prime_of_chained prime_of_mem_smallPrimes (show Chained smallPrimes certificates by decide)
    (by decide)

instance : Fact prime.Prime := ⟨prime_prime⟩

end SlotConsensus.Curve
