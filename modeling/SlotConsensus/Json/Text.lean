import SlotConsensus.Bytes.Hex
import SlotConsensus.Json.Lexical

/-! The strings of a JSON text.  Reading starts after the quotation mark that opens a string and
takes the one that closes it. -/

namespace SlotConsensus.Json

/-- The number of the four hexadecimal digits at the front, and what follows them.  A text of fewer
than four bytes ends too early. -/
def takeUnit (s : List Char) : Except Error (Nat × List Char) :=
  match s with
  | a :: b :: c :: d :: r =>
    match Hex.value? a, Hex.value? b, Hex.value? c, Hex.value? d with
    | some a, some b, some c, some d => .ok (16 * (16 * (16 * a + b) + c) + d, r)
    | _, _, _, _ => .error .invalidEscape
  | short =>
    if (String.ofList short).utf8ByteSize < 4 then .error .endInString else .error .invalidEscape

/-- The character that a letter after a backslash stands for. -/
def unescape? : Char → Option Char
  | '"' => some '"'
  | '\\' => some '\\'
  | '/' => some '/'
  | 'b' => some '\x08'
  | 'f' => some '\x0c'
  | 'n' => some '\n'
  | 'r' => some '\r'
  | 't' => some '\t'
  | _ => none

/-- The character that starts with the surrogate `high`, whose other half follows as an escape of
its own. -/
def takeLow (high : Nat) : List Char → Except Error (Char × List Char)
  | '\\' :: 'u' :: r =>
    match takeUnit r with
    | .error e => .error e
    | .ok (low, r) =>
      if 0xdc00 ≤ low ∧ low ≤ 0xdfff then
        .ok (Char.ofNat (0x10000 + 0x400 * (high - 0xd800) + (low - 0xdc00)), r)
      else .error .loneSurrogate
  | [] | ['\\'] => .error .endInString
  | _ => .error .unfinishedSurrogate

/-- The character of the escape at the front, after its backslash. -/
def takeEscape : List Char → Except Error (Char × List Char)
  | [] => .error .endInString
  | 'u' :: r =>
    match takeUnit r with
    | .error e => .error e
    | .ok (unit, r) =>
      if 0xdc00 ≤ unit ∧ unit ≤ 0xdfff then .error .loneSurrogate
      else if 0xd800 ≤ unit ∧ unit ≤ 0xdbff then takeLow unit r
      else .ok (Char.ofNat unit, r)
  | c :: r =>
    match unescape? c with
    | some d => .ok (d, r)
    | none => .error .invalidEscape

/-- What follows the escape at the front, whatever it stands for. -/
def skipEscape : List Char → Except Error (List Char)
  | [] => .error .endInString
  | 'u' :: r => (takeUnit r).map Prod.snd
  | c :: r => if (unescape? c).isSome then .ok r else .error .invalidEscape

theorem length_takeUnit_lt {s r : List Char} {n : Nat} (h : takeUnit s = .ok (n, r)) :
    r.length < s.length := by
  unfold takeUnit at h
  split at h
  · split at h
    · cases h; simp; omega
    · cases h
  · split at h <;> cases h

theorem length_takeLow_lt {high : Nat} {s r : List Char} {c : Char}
    (h : takeLow high s = .ok (c, r)) : r.length < s.length := by
  unfold takeLow at h
  split at h
  · split at h
    · cases h
    · rename_i hu
      have := length_takeUnit_lt hu
      split at h
      · simp only [Except.ok.injEq, Prod.mk.injEq] at h
        obtain ⟨-, rfl⟩ := h
        simp only [List.length_cons]
        omega
      · cases h
  all_goals cases h

theorem length_takeEscape_lt {s r : List Char} {c : Char} (h : takeEscape s = .ok (c, r)) :
    r.length < s.length := by
  unfold takeEscape at h
  split at h
  · cases h
  · split at h
    · cases h
    · rename_i hu
      have := length_takeUnit_lt hu
      split at h
      · cases h
      · split at h
        · have := length_takeLow_lt h
          simp only [List.length_cons]
          omega
        · cases h
          simp only [List.length_cons]
          omega
  · split at h <;> cases h
    simp

theorem length_skipEscape_lt {s r : List Char} (h : skipEscape s = .ok r) :
    r.length < s.length := by
  unfold skipEscape at h
  split at h
  · cases h
  · rename_i t
    cases hu : takeUnit t with
    | error e => rw [hu] at h; cases h
    | ok p =>
      rw [hu] at h
      cases h
      have := length_takeUnit_lt hu
      simp only [List.length_cons]
      omega
  · split at h <;> cases h
    simp

/-- The characters up to the quotation mark that closes the string, and what follows it. -/
def takeText (s : List Char) : Except Error (List Char × List Char) :=
  match s with
  | [] => .error .endInString
  | '"' :: r => .ok ([], r)
  | '\\' :: r =>
    match h : takeEscape r with
    | .error e => .error e
    | .ok (c, t) =>
      have := length_takeEscape_lt h
      (takeText t).map fun (cs, t) => (c :: cs, t)
  | c :: r =>
    if c.toNat < 0x20 then .error .controlCharacter
    else (takeText r).map fun (cs, t) => (c :: cs, t)
termination_by s.length

/-- What follows the quotation mark that closes the string. -/
def skipText (s : List Char) : Except Error (List Char) :=
  match s with
  | [] => .error .endInString
  | '"' :: r => .ok r
  | '\\' :: r =>
    match h : skipEscape r with
    | .error e => .error e
    | .ok t =>
      have := length_skipEscape_lt h
      skipText t
  | c :: r => if c.toNat < 0x20 then .error .controlCharacter else skipText r
termination_by s.length

theorem length_takeText_lt {s r cs : List Char} (h : takeText s = .ok (cs, r)) :
    r.length < s.length := by
  fun_induction takeText s generalizing cs with
  | case1 => cases h
  | case2 => cases h; simp
  | case3 => cases h
  | case4 r c t _ hlt ih =>
    cases ht : takeText t with
    | error e => rw [ht] at h; cases h
    | ok p =>
      rw [ht] at h
      cases h
      have := ih ht
      simp only [List.length_cons]
      omega
  | case5 => cases h
  | case6 c t _ _ _ ih =>
    cases ht : takeText t with
    | error e => rw [ht] at h; cases h
    | ok p =>
      rw [ht] at h
      cases h
      have := ih ht
      simp only [List.length_cons]
      omega

theorem length_skipText_lt {s r : List Char} (h : skipText s = .ok r) : r.length < s.length := by
  fun_induction skipText s with
  | case1 => cases h
  | case2 => cases h; simp
  | case3 => cases h
  | case4 r t _ hlt ih =>
    have := ih h
    simp only [List.length_cons]
    omega
  | case5 => cases h
  | case6 c t _ _ _ ih =>
    have := ih h
    simp only [List.length_cons]
    omega

/-! ### Writing -/

/-- A character as it stands in a string. -/
def writeChar (c : Char) : List Char :=
  if c = '"' then ['\\', '"']
  else if c = '\\' then ['\\', '\\']
  else if c = '\x08' then ['\\', 'b']
  else if c = '\t' then ['\\', 't']
  else if c = '\n' then ['\\', 'n']
  else if c = '\x0c' then ['\\', 'f']
  else if c = '\r' then ['\\', 'r']
  else if c.toNat < 0x20 then '\\' :: 'u' :: '0' :: '0' :: Hex.digits c.toNat.toUInt8
  else [c]

/-- The characters in quotation marks. -/
def writeText (cs : List Char) : List Char := '"' :: cs.flatMap writeChar ++ ['"']

end SlotConsensus.Json
