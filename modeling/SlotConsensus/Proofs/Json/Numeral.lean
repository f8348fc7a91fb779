import SlotConsensus.Json.Lexical

/-! Decimal numerals are read back.  The decimal digits of a number that fits in 64 bits stand for
that integer, if nothing comes after them that the numeral could go on with. -/

namespace SlotConsensus.Json

/-- A numeral with this character after it goes on. -/
def goesOn (c : Char) : Bool := c.isDigit || c == '.' || c == 'e' || c == 'E'

/-- The text may come after a value: no numeral before it goes on. -/
def EndsValue (s : List Char) : Prop := ∀ c ∈ s.head?, goesOn c = false

theorem endsValue_nil : EndsValue [] := by
  intro c hc
  cases hc

@[simp] theorem endsValue_cons {c : Char} {s : List Char} :
    EndsValue (c :: s) ↔ goesOn c = false := by
  simp [EndsValue]

theorem not_isDigit_of_goesOn {c : Char} (h : goesOn c = false) : c.isDigit = false := by
  simp only [goesOn, Bool.or_eq_false_iff] at h
  exact h.1.1.1

/-! ### Digits -/

theorem takeDigits_append {cs rest : List Char} (hcs : ∀ c ∈ cs, c.isDigit = true)
    (hrest : EndsValue rest) : takeDigits (cs ++ rest) = (cs.map digitValue, rest) := by
  have hnone : rest.takeWhile Char.isDigit = [] ∧ rest.dropWhile Char.isDigit = rest := by
    cases rest with
    | nil => exact ⟨rfl, rfl⟩
    | cons c rest =>
      have hc := not_isDigit_of_goesOn (endsValue_cons.mp hrest)
      simp [hc]
  rw [takeDigits, List.takeWhile_append_of_pos hcs, List.dropWhile_append_of_pos hcs, hnone.1,
    hnone.2, List.append_nil]

theorem isDigit_of_mem {n : Nat} {c : Char} (hc : c ∈ Nat.toDigits 10 n) : c.isDigit = true :=
  Nat.isDigit_of_mem_toDigits (by decide) (by decide) hc

/-- The digits of a number after zero do not start with zero. -/
theorem head?_digits_ne_zero {n : Nat} (hn : 0 < n) :
    ((Nat.toDigits 10 n).map digitValue).head? ≠ some 0 := by
  induction n using Nat.strongRecOn with
  | _ n ih =>
    by_cases hlt : n < 10
    · have hvalue : digitValue (Nat.digitChar n) = n := Nat.toNat_digitChar_sub_48_of_lt_ten hlt
      rw [Nat.toDigits_of_lt_base hlt, List.map_singleton, hvalue]
      simpa using Nat.pos_iff_ne_zero.mp hn
    · have hfirst := ih (n / 10) (by omega) (by omega)
      rw [Nat.toDigits_of_base_le (by decide) (Nat.not_lt.mp hlt), List.map_append,
        List.head?_append]
      cases hhead : ((Nat.toDigits 10 (n / 10)).map digitValue).head? with
      | none => simp at hhead
      | some d =>
        rw [hhead] at hfirst
        exact hfirst

/-- The digits of a number are the whole part of a numeral: zero is one digit, and the others do not
start with zero. -/
theorem takeWhole_toDigits (atEnd : Error) (n : Nat) {rest : List Char} (hrest : EndsValue rest) :
    Numeral.takeWhole atEnd (Nat.toDigits 10 n ++ rest) =
      .ok ((Nat.toDigits 10 n).map digitValue, rest) := by
  have htake := takeDigits_append (fun _ => isDigit_of_mem (n := n)) hrest
  have hlead : ∀ d ds, (Nat.toDigits 10 n).map digitValue ≠ 0 :: d :: ds := by
    intro d ds hzero
    rcases Nat.eq_zero_or_pos n with rfl | hn
    · simp [Nat.toDigits_zero] at hzero
    · exact head?_digits_ne_zero hn (by rw [hzero]; rfl)
  cases hdigits : Nat.toDigits 10 n with
  | nil => simp at hdigits
  | cons c cs =>
    rw [hdigits] at htake hlead
    rw [List.cons_append] at htake ⊢
    rw [Numeral.takeWhole, htake]
    split
    · rename_i heq
      simp at heq
    · rename_i heq
      exact absurd (congrArg Prod.fst heq) (hlead _ _)
    · rename_i heq
      cases heq
      rfl

/-! ### Numerals -/

theorem takeFraction_of_ends (atEnd : Error) {rest : List Char} (hrest : EndsValue rest) :
    Numeral.takeFraction atEnd rest = .ok (none, rest) := by
  unfold Numeral.takeFraction
  split
  · simp [goesOn] at hrest
  · rfl

theorem takeExponent_of_ends (atEnd : Error) {rest : List Char} (hrest : EndsValue rest) :
    Numeral.takeExponent atEnd rest = .ok (none, rest) := by
  cases rest with
  | nil => rfl
  | cons c rest =>
    have hc : ¬(c = 'e' ∨ c = 'E') := by
      rintro (rfl | rfl) <;> simp [goesOn] at hrest
    exact if_neg hc

theorem take_toDigits (atEnd : Error) (n : Nat) {rest : List Char} (hrest : EndsValue rest) :
    Numeral.take atEnd (Nat.toDigits 10 n ++ rest) =
      .ok (⟨false, (Nat.toDigits 10 n).map digitValue, none, none⟩, rest) := by
  have hwhole := takeWhole_toDigits atEnd n hrest
  have hsign : ∀ r, Nat.toDigits 10 n ++ rest ≠ '-' :: r := by
    intro r hminus
    cases hdigits : Nat.toDigits 10 n with
    | nil => simp at hdigits
    | cons c cs =>
      have hc : c.isDigit = true := isDigit_of_mem (n := n) (by simp [hdigits])
      rw [hdigits, List.cons_append] at hminus
      rw [(List.cons.inj hminus).1] at hc
      exact absurd hc (by decide)
  unfold Numeral.take
  split
  rename_i negative s heq
  split at heq
  · rename_i r hminus
    exact absurd hminus (hsign r)
  · cases heq
    simp only [hwhole, takeFraction_of_ends atEnd hrest, takeExponent_of_ends atEnd hrest, bind,
      Except.bind]
    rfl

theorem le_ofDigitChars (cs : List Char) (n : Nat) : n ≤ Nat.ofDigitChars 10 cs n := by
  induction cs generalizing n with
  | nil => exact Nat.le_refl n
  | cons c cs ih =>
    rw [Nat.ofDigitChars_cons]
    exact Nat.le_trans (by omega) (ih _)

/-- Digits of a number that fits in 64 bits are all absorbed. -/
theorem absorb_map_digitValue {cs : List Char} {n : Nat}
    (h : Nat.ofDigitChars 10 cs n ≤ 0xffffffffffffffff) :
    Numeral.absorb n (cs.map digitValue) = (Nat.ofDigitChars 10 cs n, []) := by
  induction cs generalizing n with
  | nil => rfl
  | cons c cs ih =>
    rw [Nat.ofDigitChars_cons] at h ⊢
    rw [List.map_cons, Numeral.absorb]
    have hle : 10 * n + digitValue c ≤ 0xffffffffffffffff := Nat.le_trans (le_ofDigitChars cs _) h
    rw [if_pos hle]
    exact ih h

theorem takeNumber_toDigits {n : Nat} (hn : n ≤ 0xffffffffffffffff) {rest : List Char}
    (hrest : EndsValue rest) :
    takeNumber (Nat.toDigits 10 n ++ rest) = .ok (.integer n, rest) := by
  have habsorb : Numeral.absorb 0 ((Nat.toDigits 10 n).map digitValue) = (n, []) := by
    rw [absorb_map_digitValue (by rw [Nat.ofDigitChars_ten_toDigits]; exact hn),
      Nat.ofDigitChars_ten_toDigits]
  simp only [takeNumber, take_toDigits .endInValue n hrest, bind, Except.bind, Numeral.number,
    habsorb]
  rfl

end SlotConsensus.Json
