import SlotConsensus.Json.Text

/-! Skipping a JSON value whose content does not matter.  Its syntax is checked, but numerals may
be as large as they like and escapes need not stand for characters.  Lists and objects may be
nested to any depth: the ones that are open are kept in a list, the innermost first. -/

namespace SlotConsensus.Json

inductive Bracket
  | list
  | object

namespace Bracket

def close : Bracket → Char
  | list => ']'
  | object => '\x7d'

/-- The text ends before the bracket is closed. -/
def atEnd : Bracket → Error
  | list => .endInList
  | object => .endInObject

/-- Something else stands where the bracket ends or goes on. -/
def expectedEnd : Bracket → Error
  | list => .expectedListEnd
  | object => .expectedObjectEnd

end Bracket

/-- What follows the colon after a key. -/
def takeColon (s : List Char) : Except Error (List Char) :=
  match skipBlanks s with
  | [] => .error .endInObject
  | ':' :: r => .ok r
  | _ => .error .expectedColon

theorem length_takeColon_lt {s r : List Char} (h : takeColon s = .ok r) :
    r.length < s.length := by
  have hs := length_skipBlanks_le s
  unfold takeColon at h
  split at h
  · cases h
  · rename_i heq
    cases h
    rw [heq, List.length_cons] at hs
    exact hs
  · cases h

/-- What follows a value that is no list and no object. -/
def skipScalar : List Char → Except Error (List Char)
  | [] => .error .endInValue
  | 'n' :: r => word ['u', 'l', 'l'] r
  | 't' :: r => word ['r', 'u', 'e'] r
  | 'f' :: r => word ['a', 'l', 's', 'e'] r
  | '"' :: r => skipText r
  | c :: r =>
    if c = '-' ∨ c.isDigit then (Numeral.take .invalidNumber (c :: r)).map Prod.snd
    else .error .expectedValue

theorem length_skipScalar_lt {s r : List Char} (h : skipScalar s = .ok r) :
    r.length < s.length := by
  unfold skipScalar at h
  split at h
  · cases h
  · exact Nat.lt_succ_of_le (length_word_le h)
  · exact Nat.lt_succ_of_le (length_word_le h)
  · exact Nat.lt_succ_of_le (length_word_le h)
  · exact Nat.lt_succ_of_lt (length_skipText_lt h)
  · rename_i c t _ _ _ _
    split at h
    · cases ht : Numeral.take .invalidNumber (c :: t) with
      | error e => rw [ht] at h; cases h
      | ok p =>
        rw [ht] at h
        cases h
        exact Numeral.length_take_lt ht
    · cases h

/-- The start of the next value in a bracket: in an object it comes after a key and a colon. -/
def skipKey (b : Bracket) (s : List Char) : Except Error (List Char) :=
  match b with
  | .list => .ok s
  | .object =>
    match skipBlanks s with
    | [] => .error .endInObject
    | '"' :: r => (skipText r).bind takeColon
    | _ => .error .keyNotString

theorem length_skipKey_le {b : Bracket} {s r : List Char} (h : skipKey b s = .ok r) :
    r.length ≤ s.length := by
  have hs := length_skipBlanks_le s
  unfold skipKey at h
  split at h
  · cases h; exact Nat.le_refl _
  · split at h
    · cases h
    · rename_i t heq
      cases ht : skipText t with
      | error e => rw [ht] at h; cases h
      | ok u =>
        rw [ht] at h
        have h1 := length_skipText_lt ht
        have h2 := length_takeColon_lt h
        rw [heq, List.length_cons] at hs
        omega
    · cases h

theorem two_mul_succ_lt {m n : Nat} (h : m < n) : 2 * m + 1 < 2 * n := by omega

mutual

/-- What follows the value at the front and all the brackets that are open around it. -/
def skipValue (outer : List Bracket) (s : List Char) : Except Error (List Char) :=
  have hs := length_skipBlanks_le s
  match hb : skipBlanks s with
  | '[' :: r =>
    have : r.length < s.length := by rw [hb] at hs; exact hs
    skipRest .list outer false r
  | '\x7b' :: r =>
    have : r.length < s.length := by rw [hb] at hs; exact hs
    skipRest .object outer false r
  | t =>
    match h : skipScalar t with
    | .error e => .error e
    | .ok r =>
      match outer with
      | [] => .ok r
      | b :: bs =>
        have : r.length < s.length := by
          have := length_skipScalar_lt h
          rw [hb] at hs
          omega
        skipRest b bs true r
termination_by 2 * s.length
decreasing_by all_goals exact two_mul_succ_lt this

/-- What follows the bracket `b` and those around it, from a place inside `b` on that is after a
value or else right after the opening. -/
def skipRest (b : Bracket) (outer : List Bracket) (afterValue : Bool) (s : List Char) :
    Except Error (List Char) :=
  have hs := length_skipBlanks_le s
  match hb : skipBlanks s with
  | [] => .error b.atEnd
  | c :: r =>
    have hr : r.length < s.length := by rw [hb] at hs; exact hs
    if c = b.close then
      match outer with
      | [] => .ok r
      | b' :: bs => skipRest b' bs true r
    else if afterValue && c != ',' then .error b.expectedEnd
    else
      match h : skipKey b (if afterValue then r else c :: r) with
      | .error e => .error e
      | .ok t =>
        have : t.length ≤ s.length := by
          have := length_skipKey_le h
          rw [hb] at hs
          split at this <;> simp only [List.length_cons] at * <;> omega
        skipValue (b :: outer) t
termination_by 2 * s.length + 1
decreasing_by
  · exact Nat.succ_lt_succ (Nat.mul_lt_mul_of_pos_left hr Nat.two_pos)
  · exact Nat.lt_succ_of_le (Nat.mul_le_mul_left 2 this)

end

theorem length_skipValue_lt_of {outer : List Bracket} {s r : List Char}
    (rest : ∀ b bs after t, t.length < s.length → skipRest b bs after t = .ok r →
      r.length < t.length)
    (h : skipValue outer s = .ok r) : r.length < s.length := by
  have hs := length_skipBlanks_le s
  rw [skipValue] at h
  split at h
  · rename_i t hb
    rw [hb, List.length_cons] at hs
    exact Nat.lt_of_lt_of_le (Nat.lt_succ_of_lt (rest _ _ _ _ hs h)) hs
  · rename_i t hb
    rw [hb, List.length_cons] at hs
    exact Nat.lt_of_lt_of_le (Nat.lt_succ_of_lt (rest _ _ _ _ hs h)) hs
  · split at h
    · cases h
    · rename_i hr
      have hr := length_skipScalar_lt hr
      split at h
      · cases h
        omega
      · have := rest _ _ _ _ (by omega) h
        omega

theorem length_skipRest_lt (n : Nat) {b : Bracket} {outer : List Bracket} {after : Bool}
    {s r : List Char} (hn : s.length ≤ n) (h : skipRest b outer after s = .ok r) :
    r.length < s.length := by
  induction n generalizing b outer after s with
  | zero =>
    obtain rfl : s = [] := List.length_eq_zero_iff.1 (Nat.le_zero.1 hn)
    rw [skipRest] at h
    cases h
  | succ n ih =>
    have hs := length_skipBlanks_le s
    rw [skipRest] at h
    split at h
    · cases h
    · rename_i c t hb
      rw [hb, List.length_cons] at hs
      split at h
      · split at h
        · cases h
          exact hs
        · have := ih (by omega) h
          omega
      · split at h
        · cases h
        · split at h
          · cases h
          · rename_i u hu
            have hu := length_skipKey_le hu
            have hu : u.length ≤ s.length := by
              split at hu
              · omega
              · rw [List.length_cons] at hu
                omega
            have := length_skipValue_lt_of (fun _ _ _ v hv hr => ih (by omega) hr) h
            omega

theorem length_skipValue_lt {outer : List Bracket} {s r : List Char}
    (h : skipValue outer s = .ok r) : r.length < s.length :=
  length_skipValue_lt_of (fun _ _ _ t _ hr => length_skipRest_lt t.length (Nat.le_refl _) hr) h

end SlotConsensus.Json
