import SlotConsensus.Bytes.Octets
import SlotConsensus.Json.Layout
import SlotConsensus.Json.Skip

/-! The JSON forms of types.  A form reads a value off the front of a text and writes a value.
What it reads takes up at least one character, so that reading one value after the other comes to
an end. -/

namespace SlotConsensus.Json

structure Form (α : Type) where
  read : List Char → Except Error (α × List Char)
  /-- The layout, the depth of the brackets around the value, and the value. -/
  write : Layout → Nat → α → List Char
  read_lt : ∀ {s r : List Char} {a : α}, read s = .ok (a, r) → r.length < s.length

/-- Why a key word is not of the expected type, from its second letter on. -/
def mismatchedWord (found : Found) (expected : String) (letters s : List Char) : Error :=
  match word letters s with
  | .ok _ => .wrongType found expected
  | .error e => e

/-- Why the value at the front is not of the expected type. -/
def mismatch (expected : String) : List Char → Error
  | [] => .endInValue
  | 'n' :: r => mismatchedWord .null expected ['u', 'l', 'l'] r
  | 't' :: r => mismatchedWord (.boolean true) expected ['r', 'u', 'e'] r
  | 'f' :: r => mismatchedWord (.boolean false) expected ['a', 'l', 's', 'e'] r
  | '"' :: r =>
    match takeText r with
    | .ok (cs, _) => .wrongType (.text (String.ofList cs)) expected
    | .error e => e
  | '[' :: _ => .wrongType .list expected
  | '\x7b' :: _ => .wrongType .object expected
  | c :: r =>
    if c = '-' ∨ c.isDigit then
      match takeNumber (c :: r) with
      | .ok (n, _) => .wrongType (.number n) expected
      | .error e => e
    else .expectedValue

namespace Form

variable {α β : Type}

/-- The value that makes up a whole text. -/
def parse (f : Form α) (text : String) : Except Error α :=
  match f.read text.toList with
  | .error e => .error e
  | .ok (a, r) => if (skipBlanks r).isEmpty then .ok a else .error .trailingCharacters

def print (f : Form α) (layout : Layout) (a : α) : String := String.ofList (f.write layout 0 a)

/-- The form of a type whose values correspond to those of another one. -/
def convert (f : Form α) (make : α → β) (parts : β → α) : Form β where
  read s :=
    match f.read s with
    | .ok (a, r) => .ok (make a, r)
    | .error e => .error e
  write layout depth b := f.write layout depth (parts b)
  read_lt {s r b} h := by
    split at h
    · rename_i hr
      cases h
      exact f.read_lt hr
    · cases h

/-! ### Numbers and texts -/

def readInteger (expected : String) (size : Nat) (s : List Char) :
    Except Error (Fin size × List Char) :=
  match skipBlanks s with
  | [] => .error .endInValue
  | c :: r =>
    if c = '-' ∨ c.isDigit then
      match takeNumber (c :: r) with
      | .error e => .error e
      | .ok (.double x, _) => .error (.wrongType (.number (.double x)) expected)
      | .ok (.integer i, t) =>
        if h : 0 ≤ i ∧ i.toNat < size then .ok (⟨i.toNat, h.2⟩, t)
        else .error (.wrongInteger i expected)
    else .error (mismatch expected (c :: r))

/-- Integers from zero up to `size`, under the name of their type. -/
def integer (name : String) (size : Nat) : Form (Fin size) where
  read := readInteger name size
  write _ _ n := Nat.toDigits 10 n.val
  read_lt {s r n} h := by
    have hs := length_skipBlanks_le s
    unfold readInteger at h
    split at h
    · cases h
    · rename_i hb
      rw [hb] at hs
      split at h
      · split at h
        · cases h
        · cases h
        · rename_i ht
          have ht := length_takeNumber_lt ht
          split at h
          · cases h
            omega
          · cases h
      · cases h

def byte : Form UInt8 := (integer "u8" UInt8.size).convert UInt8.ofFin UInt8.toFin

def word32 : Form UInt32 := (integer "u32" UInt32.size).convert UInt32.ofFin UInt32.toFin

def word64 : Form UInt64 := (integer "u64" UInt64.size).convert UInt64.ofFin UInt64.toFin

/-- A number of things, which also has 64 bits. -/
def count : Form UInt64 := (integer "usize" UInt64.size).convert UInt64.ofFin UInt64.toFin

def readText (s : List Char) : Except Error (String × List Char) :=
  match skipBlanks s with
  | '"' :: r =>
    match takeText r with
    | .ok (cs, t) => .ok (String.ofList cs, t)
    | .error e => .error e
  | t => .error (mismatch "a string" t)

def text : Form String where
  read := readText
  write _ _ t := writeText t.toList
  read_lt {s r t} h := by
    have hs := length_skipBlanks_le s
    unfold readText at h
    split at h
    · rename_i hb
      rw [hb, List.length_cons] at hs
      split at h
      · rename_i ht
        have ht := length_takeText_lt ht
        cases h
        omega
      · cases h
    · cases h

end Form

/-! ### Lists -/

/-- Where a list or an object goes on. -/
inductive Next
  /-- With an item or a key, of which the rest is given. -/
  | item (rest : List Char)
  /-- Nowhere: the bracket is closed. -/
  | close (rest : List Char)

/-- Where a list goes on, from the place after an item or after the opening bracket. -/
def nextItem (first : Bool) (s : List Char) : Except Error Next :=
  match skipBlanks s with
  | [] => .error .endInList
  | ']' :: r => .ok (.close r)
  | c :: r =>
    if first then .ok (.item (c :: r))
    else if c = ',' then
      match skipBlanks r with
      | [] => .error .endInValue
      | ']' :: _ => .error .trailingComma
      | t => .ok (.item t)
    else .error .expectedListEnd

theorem length_nextItem_le {first : Bool} {s r : List Char}
    (h : nextItem first s = .ok (.item r)) : r.length ≤ s.length := by
  have hs := length_skipBlanks_le s
  unfold nextItem at h
  split at h
  · cases h
  · cases h
  · rename_i t _ hb
    rw [hb, List.length_cons] at hs
    split at h
    · cases h
      rw [List.length_cons]
      exact hs
    · have ht := length_skipBlanks_le t
      split at h
      · split at h
        · cases h
        · cases h
        · cases h
          omega
      · cases h

theorem length_nextItem_close_lt {first : Bool} {s r : List Char}
    (h : nextItem first s = .ok (.close r)) : r.length < s.length := by
  have hs := length_skipBlanks_le s
  unfold nextItem at h
  split at h
  · cases h
  · rename_i hb
    rw [hb, List.length_cons] at hs
    cases h
    exact hs
  · split at h
    · cases h
    · split at h
      · split at h <;> cases h
      · cases h

/-- What follows a list of which all items have been read. -/
def closeList (s : List Char) : Except Error (List Char) :=
  match skipBlanks s with
  | [] => .error .endInList
  | ']' :: r => .ok r
  | ',' :: r =>
    match skipBlanks r with
    | ']' :: _ => .error .trailingComma
    | _ => .error .trailingCharacters
  | _ => .error .trailingCharacters

theorem length_closeList_lt {s r : List Char} (h : closeList s = .ok r) :
    r.length < s.length := by
  have hs := length_skipBlanks_le s
  unfold closeList at h
  split at h
  · cases h
  · rename_i hb
    rw [hb, List.length_cons] at hs
    cases h
    exact hs
  · split at h <;> cases h
  · cases h

namespace Form

variable {α : Type}

/-- The items up to the end of a list, and what follows it. -/
def readItems (item : Form α) (first : Bool) (s : List Char) :
    Except Error (List α × List Char) :=
  match hn : nextItem first s with
  | .error e => .error e
  | .ok (.close r) => .ok ([], r)
  | .ok (.item t) =>
    match hr : item.read t with
    | .error e => .error e
    | .ok (a, r) =>
      have : r.length < s.length := Nat.lt_of_lt_of_le (item.read_lt hr) (length_nextItem_le hn)
      match readItems item false r with
      | .error e => .error e
      | .ok (as, r) => .ok (a :: as, r)
termination_by s.length

theorem length_readItems_lt {item : Form α} {first : Bool} {s r : List Char} {as : List α}
    (h : item.readItems first s = .ok (as, r)) : r.length < s.length := by
  fun_induction readItems item first s generalizing as with
  | case1 => cases h
  | case2 _ _ _ hn => cases h; exact length_nextItem_close_lt hn
  | case3 => cases h
  | case4 => cases h
  | case5 _ _ _ _ _ _ _ _ _ _ ht ih =>
    cases h
    have := ih ht
    omega

/-- Lists of any length. -/
def list (item : Form α) : Form (List α) where
  read s :=
    match skipBlanks s with
    | '[' :: r => item.readItems true r
    | t => .error (mismatch "a sequence" t)
  write layout depth as :=
    layout.enclose depth '[' ']' (as.map (item.write layout (depth + 1)))
  read_lt {s r as} h := by
    have hs := length_skipBlanks_le s
    split at h
    · rename_i hb
      rw [hb, List.length_cons] at hs
      have := length_readItems_lt h
      omega
    · cases h

/-- The next `count` items of a list of which `done` items have been read. -/
def readExactly (item : Form α) (expected : String) (done : Nat) :
    (count : Nat) → List Char →
      Except Error ({ as : List α // as.length = count } × List Char)
  | 0, s => .ok (⟨[], rfl⟩, s)
  | count + 1, s =>
    match nextItem (done == 0) s with
    | .error e => .error e
    | .ok (.close _) => .error (.wrongLength done expected)
    | .ok (.item t) =>
      match item.read t with
      | .error e => .error e
      | .ok (a, r) =>
        match readExactly item expected (done + 1) count r with
        | .error e => .error e
        | .ok (⟨as, h⟩, r) => .ok (⟨a :: as, by rw [List.length_cons, h]⟩, r)

theorem length_readExactly_le {item : Form α} {expected : String} {done count : Nat}
    {s r : List Char} {as : { as : List α // as.length = count }}
    (h : item.readExactly expected done count s = .ok (as, r)) : r.length ≤ s.length := by
  induction count generalizing done s with
  | zero => cases h; exact Nat.le_refl _
  | succ count ih =>
    unfold readExactly at h
    split at h
    · cases h
    · cases h
    · rename_i hn
      have hn := length_nextItem_le hn
      split at h
      · cases h
      · rename_i hr
        have hr := item.read_lt hr
        split at h
        · cases h
        · rename_i ht
          cases h
          have ht := ih ht
          omega

/-- Byte strings of a fixed length, as lists of their bytes. -/
def octets (n : Nat) : Form (Octets n) where
  read s :=
    let expected := "an array of length " ++ toString n
    match skipBlanks s with
    | '[' :: r =>
      match byte.readExactly expected 0 n r with
      | .error e => .error e
      | .ok (⟨bytes, h⟩, t) =>
        match closeList t with
        | .error e => .error e
        | .ok u => .ok (⟨bytes, h⟩, u)
    | t => .error (mismatch expected t)
  write layout depth o := byte.list.write layout depth o.toList
  read_lt {s r o} h := by
    have hs := length_skipBlanks_le s
    simp only at h
    split at h
    · rename_i hb
      rw [hb, List.length_cons] at hs
      split at h
      · cases h
      · rename_i he
        have he := length_readExactly_le he
        split at h
        · cases h
        · rename_i hc
          have hc := length_closeList_lt hc
          cases h
          omega
    · cases h

end Form

end SlotConsensus.Json
