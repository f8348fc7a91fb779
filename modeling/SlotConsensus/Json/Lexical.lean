import SlotConsensus.Json.Error

/-! The words of a JSON text: blanks, key words, and numerals with the numbers they stand for.
Whatever is read is taken off the front of the text, and the rest is never longer than before. -/

namespace SlotConsensus.Json

def isBlank (c : Char) : Bool := c = ' ' || c = '\n' || c = '\t' || c = '\r'

def skipBlanks (s : List Char) : List Char := s.dropWhile isBlank

theorem length_dropWhile_le {α : Type} (p : α → Bool) (l : List α) :
    (l.dropWhile p).length ≤ l.length :=
  (List.dropWhile_sublist p).length_le

theorem length_skipBlanks_le (s : List Char) : (skipBlanks s).length ≤ s.length :=
  length_dropWhile_le _ s

/-- What follows the rest of a key word. -/
def word : List Char → List Char → Except Error (List Char)
  | [], s => .ok s
  | _ :: _, [] => .error .endInValue
  | c :: cs, d :: s => if c = d then word cs s else .error .expectedWord

theorem length_word_le {cs s r : List Char} (h : word cs s = .ok r) : r.length ≤ s.length := by
  fun_induction word cs s with
  | case1 => cases h; exact Nat.le_refl _
  | case2 => cases h
  | case3 c cs s ih => exact Nat.le_succ_of_le (ih h)
  | case4 => cases h

/-! ### Numerals -/

def digitValue (c : Char) : Nat := c.toNat - '0'.toNat

/-- The digits at the front, and what follows them. -/
def takeDigits (s : List Char) : List Nat × List Char :=
  ((s.takeWhile Char.isDigit).map digitValue, s.dropWhile Char.isDigit)

theorem length_takeDigits {s r : List Char} {digits : List Nat} (h : takeDigits s = (digits, r)) :
    digits.length + r.length = s.length := by
  cases h
  have := congrArg List.length (List.takeWhile_append_dropWhile (p := Char.isDigit) (l := s))
  rw [List.length_append] at this
  simpa [takeDigits] using this

/-- A numeral as it is written.  The fraction has at least one digit if there is one. -/
structure Numeral where
  negative : Bool
  whole : List Nat
  fraction : Option (List Nat)
  exponent : Option (Bool × List Nat)

namespace Numeral

/-- The sign and the digits of an exponent, from the letter that starts it on. -/
def takeExponent (atEnd : Error) : List Char →
    Except Error (Option (Bool × List Nat) × List Char)
  | [] => .ok (none, [])
  | c :: s =>
    if c = 'e' ∨ c = 'E' then
      let (negative, s) : Bool × List Char := match s with
        | '-' :: r => (true, r)
        | '+' :: r => (false, r)
        | r => (false, r)
      match takeDigits s with
      | ([], []) => .error atEnd
      | ([], _ :: _) => .error .invalidNumber
      | (digits, r) => .ok (some (negative, digits), r)
    else .ok (none, c :: s)

/-- The digits of a fraction, from the point that starts it on. -/
def takeFraction (atEnd : Error) : List Char → Except Error (Option (List Nat) × List Char)
  | '.' :: s =>
    match takeDigits s with
    | ([], []) => .error atEnd
    | ([], _ :: _) => .error .invalidNumber
    | (digits, r) => .ok (some digits, r)
  | s => .ok (none, s)

/-- The digits before a point or an exponent, which start with zero only if there is one digit. -/
def takeWhole (atEnd : Error) : List Char → Except Error (List Nat × List Char)
  | [] => .error atEnd
  | c :: s =>
    match takeDigits (c :: s) with
    | ([], _) => .error .invalidNumber
    | (0 :: _ :: _, _) => .error .invalidNumber
    | (digits, r) => .ok (digits, r)

/-- The numeral at the front, and what follows it.  Of a text that ends too early `atEnd` is
reported. -/
def take (atEnd : Error) (s : List Char) : Except Error (Numeral × List Char) := do
  let (negative, s) : Bool × List Char := match s with
    | '-' :: r => (true, r)
    | r => (false, r)
  let (whole, s) ← takeWhole atEnd s
  let (fraction, s) ← takeFraction atEnd s
  let (exponent, s) ← takeExponent atEnd s
  return (⟨negative, whole, fraction, exponent⟩, s)

theorem length_takeExponent_le {atEnd : Error} {s r : List Char}
    {exponent : Option (Bool × List Nat)} (h : takeExponent atEnd s = .ok (exponent, r)) :
    r.length ≤ s.length := by
  unfold takeExponent at h
  split at h
  · cases h; simp
  · rename_i c t
    split at h
    · simp only at h
      split at h
      · cases h
      · cases h
      · rename_i hd
        have := length_takeDigits hd
        cases h
        revert this
        split <;> simp only [List.length_cons] <;> omega
    · cases h; simp

theorem length_takeFraction_le {atEnd : Error} {s r : List Char} {fraction : Option (List Nat)}
    (h : takeFraction atEnd s = .ok (fraction, r)) : r.length ≤ s.length := by
  unfold takeFraction at h
  split at h
  · split at h
    · cases h
    · cases h
    · rename_i hd
      have := length_takeDigits hd
      cases h
      simp only [List.length_cons]
      omega
  · cases h; simp

theorem length_takeWhole_lt {atEnd : Error} {s r : List Char} {whole : List Nat}
    (h : takeWhole atEnd s = .ok (whole, r)) : r.length < s.length := by
  unfold takeWhole at h
  split at h
  · cases h
  · split at h
    · cases h
    · cases h
    · rename_i digits _ hne _ hd
      have := length_takeDigits hd
      cases h
      cases whole with
      | nil => exact (hne rfl).elim
      | cons => simp only [List.length_cons] at *; omega

theorem length_take_lt {atEnd : Error} {s r : List Char} {n : Numeral}
    (h : take atEnd s = .ok (n, r)) : r.length < s.length := by
  unfold take at h
  simp only [bind, Except.bind] at h
  split at h
  · cases h
  · rename_i hw
    have hw := length_takeWhole_lt hw
    split at h
    · cases h
    · rename_i hf
      have hf := length_takeFraction_le hf
      split at h
      · cases h
      · rename_i he
        have he := length_takeExponent_le he
        cases h
        revert hw
        split <;> simp only [List.length_cons] <;> omega

/-! ### The number of a numeral -/

/-- The number that starts with `n` and goes on with as many of the digits as fit in 64 bits, and
the digits that are left over. -/
def absorb (n : Nat) : List Nat → Nat × List Nat
  | [] => (n, [])
  | d :: rest =>
    if 10 * n + d ≤ 0xffffffffffffffff then absorb (10 * n + d) rest else (n, d :: rest)

/-- The double `x * 10 ^ e`, computed by at most one multiplication or by divisions. -/
def scale (x : Float) (e : Int) : Except Error Float :=
  if e.natAbs ≤ 308 then
    let power := Float.ofScientific 1 false e.natAbs
    if 0 ≤ e then
      let y := x * power
      if y.isInf then .error .numberOutOfRange else .ok y
    else .ok (x / power)
  else if x == 0 then .ok x
  else if 0 ≤ e then .error .numberOutOfRange
  else scale (x / Float.ofScientific 1 false 308) (e + 308)
termination_by (-e).toNat
decreasing_by omega

/-- The largest exponent that is told apart from larger ones. -/
def exponentLimit : Nat := 0x7fffffff

/-- The double of a numeral.  Digits that do not fit in 64 bits together with those before them are
taken for zeros, and are dropped from a fraction. -/
def double (n : Numeral) : Except Error Float := do
  let (start, more) := absorb 0 n.whole
  let fraction := n.fraction.getD []
  let (significand, dropped) := absorb start fraction
  let point : Int := Int.ofNat more.length - Int.ofNat (fraction.length - dropped.length)
  let (negative, digits) := n.exponent.getD (false, [])
  let exponent : Nat := digits.foldl (fun e d => 10 * e + d) 0
  let size ←
    if exponentLimit < exponent then
      if significand ≠ 0 ∧ !negative then .error .numberOutOfRange else .ok 0
    else
      let shift : Int := if negative then -Int.ofNat exponent else Int.ofNat exponent
      scale significand.toUInt64.toFloat (point + shift)
  return if n.negative then -size else size

/-- A numeral without a fraction and an exponent is an integer if it fits in 64 bits, and if it is
not a negative zero. -/
def number (n : Numeral) : Except Error Number :=
  match n.fraction, n.exponent, absorb 0 n.whole with
  | none, none, (value, []) =>
    if !n.negative then .ok (.integer value)
    else if 0 < value ∧ value ≤ 0x8000000000000000 then .ok (.integer (-value))
    else (double n).map .double
  | _, _, _ => (double n).map .double

end Numeral

/-- The number at the front, and what follows it. -/
def takeNumber (s : List Char) : Except Error (Number × List Char) := do
  let (numeral, s) ← Numeral.take .endInValue s
  return (← numeral.number, s)

theorem length_takeNumber_lt {s r : List Char} {n : Number} (h : takeNumber s = .ok (n, r)) :
    r.length < s.length := by
  unfold takeNumber at h
  simp only [bind, Except.bind] at h
  split at h
  · cases h
  · rename_i ht
    have := Numeral.length_take_lt ht
    split at h <;> cases h
    exact this

end SlotConsensus.Json
