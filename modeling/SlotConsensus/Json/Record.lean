import SlotConsensus.Json.Form

/-! Records as JSON objects, or as lists of their fields in order.  In an object the fields may
stand in any order and among fields of other names, which are skipped. -/

namespace SlotConsensus.Json

/-- The names and the forms of the fields of a record, given the types of the fields. -/
inductive Fields : List Type → Type 1
  | nil : Fields []
  | cons {α : Type} {types : List Type} (name : String) (form : Form α) (rest : Fields types) :
    Fields (α :: types)

/-- A value for each field. -/
def Values : List Type → Type
  | [] => Unit
  | α :: types => α × Values types

/-- A value for each field that has been read. -/
def Slots : List Type → Type
  | [] => Unit
  | α :: types => Option α × Slots types

def Slots.empty : (types : List Type) → Slots types
  | [] => ()
  | _ :: types => (none, Slots.empty types)

/-- Where an object goes on, from the place after a value or after the opening brace.  A key is
given from its first letter on. -/
def nextKey (first : Bool) (s : List Char) : Except Error Next :=
  match skipBlanks s with
  | [] => .error .endInObject
  | '\x7d' :: r => .ok (.close r)
  | c :: r =>
    if first then
      if c = '"' then .ok (.item r) else .error .keyNotString
    else if c = ',' then
      match skipBlanks r with
      | [] => .error .endInValue
      | '"' :: t => .ok (.item t)
      | '\x7d' :: _ => .error .trailingComma
      | _ => .error .keyNotString
    else .error .expectedObjectEnd

theorem length_nextKey_lt {first : Bool} {s r : List Char}
    (h : nextKey first s = .ok (.item r) ∨ nextKey first s = .ok (.close r)) :
    r.length < s.length := by
  have hs := length_skipBlanks_le s
  unfold nextKey at h
  split at h
  · rcases h with h | h <;> cases h
  · rename_i hb
    rw [hb, List.length_cons] at hs
    rcases h with h | h <;> cases h
    exact hs
  · rename_i t _ hb
    rw [hb, List.length_cons] at hs
    split at h
    · split at h
      · rcases h with h | h <;> cases h
        exact hs
      · rcases h with h | h <;> cases h
    · have ht := length_skipBlanks_le t
      split at h
      · split at h
        · rcases h with h | h <;> cases h
        · rename_i hc
          rw [hc, List.length_cons] at ht
          rcases h with h | h <;> cases h
          omega
        · rcases h with h | h <;> cases h
        · rcases h with h | h <;> cases h
      · rcases h with h | h <;> cases h

namespace Fields

variable {types : List Type}

/-! ### Reading -/

/-- The fields of a record that is written as a list, of which `done` have been read. -/
def readInOrder (expected : String) (done : Nat) {types : List Type} :
    Fields types → List Char → Except Error (Values types × List Char)
  | nil, s => .ok ((), s)
  | cons _ form rest, s =>
    match nextItem (done == 0) s with
    | .error e => .error e
    | .ok (.close _) => .error (.wrongLength done expected)
    | .ok (.item t) =>
      match form.read t with
      | .error e => .error e
      | .ok (a, r) =>
        match rest.readInOrder expected (done + 1) r with
        | .error e => .error e
        | .ok (as, u) => .ok ((a, as), u)

theorem length_readInOrder_le {expected : String} {done : Nat} {types : List Type}
    {fields : Fields types} {s r : List Char} {values : Values types}
    (h : fields.readInOrder expected done s = .ok (values, r)) : r.length ≤ s.length := by
  induction fields generalizing done s with
  | nil => cases h; exact Nat.le_refl _
  | cons name form rest ih =>
    unfold readInOrder at h
    split at h
    · cases h
    · cases h
    · rename_i hn
      have hn := length_nextItem_le hn
      split at h
      · cases h
      · rename_i hr
        have hr := form.read_lt hr
        split at h
        · cases h
        · rename_i ht
          cases h
          have ht := ih ht
          omega

/-- The value of a field from the colon after its key on.  A field that has been read before is
refused at once. -/
def readValue {α : Type} (name : String) (form : Form α) (slot : Option α) (s : List Char) :
    Except Error (α × List Char) :=
  if slot.isSome then .error (.duplicateField name)
  else
    match takeColon s with
    | .error e => .error e
    | .ok t => form.read t

theorem length_readValue_lt {α : Type} {name : String} {form : Form α} {slot : Option α}
    {s r : List Char} {a : α} (h : readValue name form slot s = .ok (a, r)) :
    r.length < s.length := by
  unfold readValue at h
  split at h
  · cases h
  · split at h
    · cases h
    · rename_i hc
      have hc := length_takeColon_lt hc
      have hr := form.read_lt h
      omega

/-- Reads the field that is called `key`, if there is one, from the colon after the key on. -/
def readField? (key : List Char) {types : List Type} :
    Fields types → Slots types → List Char → Option (Except Error (Slots types × List Char))
  | nil, _, _ => none
  | cons name form rest, (slot, slots), s =>
    if key = name.toList then
      match readValue name form slot s with
      | .error e => some (.error e)
      | .ok (a, r) => some (.ok ((some a, slots), r))
    else
      match rest.readField? key slots s with
      | none => none
      | some (.error e) => some (.error e)
      | some (.ok (slots, r)) => some (.ok ((slot, slots), r))

theorem length_readField?_lt {key : List Char} {types : List Type} {fields : Fields types}
    {slots slots' : Slots types} {s r : List Char}
    (h : fields.readField? key slots s = some (.ok (slots', r))) : r.length < s.length := by
  induction fields with
  | nil => cases h
  | cons name form rest ih =>
    obtain ⟨slot, slots⟩ := slots
    rw [readField?] at h
    split at h
    · split at h
      · cases h
      · rename_i hv
        cases h
        exact length_readValue_lt hv
    · split at h
      · cases h
      · cases h
      · rename_i hr
        cases h
        exact ih hr

/-- The fields up to the end of an object, and what follows it. -/
def readAll (fields : Fields types) (slots : Slots types) (first : Bool) (s : List Char) :
    Except Error (Slots types × List Char) :=
  match hn : nextKey first s with
  | .error e => .error e
  | .ok (.close r) => .ok (slots, r)
  | .ok (.item t) =>
    have _hn := length_nextKey_lt (.inl hn)
    match hk : takeText t with
    | .error e => .error e
    | .ok (key, u) =>
      have _hk := length_takeText_lt hk
      match hf : fields.readField? key slots u with
      | some (.error e) => .error e
      | some (.ok (slots, r)) =>
        have := length_readField?_lt hf
        fields.readAll slots false r
      | none =>
        match hc : takeColon u with
        | .error e => .error e
        | .ok v =>
          have _hc := length_takeColon_lt hc
          match hv : skipValue [] v with
          | .error e => .error e
          | .ok r =>
            have := length_skipValue_lt hv
            fields.readAll slots false r
termination_by s.length

theorem length_readAll_lt {fields : Fields types} {slots slots' : Slots types} {first : Bool}
    {s r : List Char} (h : fields.readAll slots first s = .ok (slots', r)) :
    r.length < s.length := by
  fun_induction readAll fields slots first s with
  | case1 => cases h
  | case2 _ _ _ _ hn => cases h; exact length_nextKey_lt (.inr hn)
  | case3 => cases h
  | case4 => cases h
  | case5 =>
    rename_i ih
    have := ih h
    omega
  | case6 => cases h
  | case7 => cases h
  | case8 =>
    rename_i ih
    have := ih h
    omega

/-- The values of all fields, or the first field that is missing. -/
def complete {types : List Type} : Fields types → Slots types → Except Error (Values types)
  | nil, _ => .ok ()
  | cons name _ rest, (slot, slots) =>
    match slot with
    | none => .error (.missingField name)
    | some a =>
      match rest.complete slots with
      | .error e => .error e
      | .ok as => .ok (a, as)

def size {types : List Type} : Fields types → Nat
  | nil => 0
  | cons _ _ rest => rest.size + 1

/-! ### Writing -/

/-- Each field with its key. -/
def write (layout : Layout) (depth : Nat) {types : List Type} :
    Fields types → Values types → List (List Char)
  | nil, _ => []
  | cons name form rest, (a, as) =>
    (writeText name.toList ++ layout.colon ++ form.write layout depth a) ::
      rest.write layout depth as

end Fields

/-- The form of a record that is called `name` in messages. -/
def Form.record {types : List Type} {σ : Type} (name : String) (fields : Fields types)
    (make : Values types → σ) (parts : σ → Values types) : Form σ where
  read s :=
    let expected := "struct " ++ name
    match skipBlanks s with
    | '[' :: r =>
      let sized := expected ++ " with " ++ toString fields.size ++ " elements"
      match fields.readInOrder sized 0 r with
      | .error e => .error e
      | .ok (values, t) =>
        match closeList t with
        | .error e => .error e
        | .ok u => .ok (make values, u)
    | '\x7b' :: r =>
      match fields.readAll (Slots.empty types) true r with
      | .error e => .error e
      | .ok (slots, t) =>
        match fields.complete slots with
        | .error e => .error e
        | .ok values => .ok (make values, t)
    | t => .error (mismatch expected t)
  write layout depth a :=
    layout.enclose depth '\x7b' '\x7d' (fields.write layout (depth + 1) (parts a))
  read_lt {s r a} h := by
    have hs := length_skipBlanks_le s
    simp only at h
    split at h
    · rename_i hb
      rw [hb, List.length_cons] at hs
      split at h
      · cases h
      · rename_i hf
        have hf := Fields.length_readInOrder_le hf
        split at h
        · cases h
        · rename_i hc
          have hc := length_closeList_lt hc
          cases h
          omega
    · rename_i hb
      rw [hb, List.length_cons] at hs
      split at h
      · cases h
      · rename_i hf
        have hf := Fields.length_readAll_lt hf
        split at h
        · cases h
        · cases h
          omega
    · cases h

end SlotConsensus.Json
