import SlotConsensus.Proofs.Json.Form

/-! Records lose nothing if their fields have different names and lose nothing themselves.  A record
is written as an object, field after field.  Reading goes through these rows: each one fills the
slot of its field, which is empty before, and leaves the other slots as they are. -/

namespace SlotConsensus.Json

/-- All fields have been read. -/
def Slots.full : {types : List Type} → Values types → Slots types
  | [], _ => ()
  | _ :: _, (a, as) => (some a, full as)

namespace Fields

variable {types all : List Type}

def names {types : List Type} : Fields types → List String
  | nil => []
  | cons name _ rest => name :: rest.names

/-- No two fields have one name, and the form of each field loses nothing. -/
inductive Lossless : {types : List Type} → Fields types → Prop
  | nil : Lossless nil
  | cons {α : Type} {types : List Type} {name : String} {form : Form α} {rest : Fields types}
      (fresh : name ∉ rest.names) (first : form.Lossless) (others : Lossless rest) :
      Lossless (cons name form rest)

theorem complete_full (fields : Fields types) (values : Values types) :
    fields.complete (Slots.full values) = .ok values := by
  induction fields with
  | nil => rfl
  | cons name form rest ih =>
    obtain ⟨a, as⟩ := values
    simp only [Slots.full, complete, ih]

/-! ### One field -/

theorem mem_names_of_readField? {fields : Fields types} {key : List Char} {slots : Slots types}
    {s : List Char} {outcome : Except Error (Slots types × List Char)}
    (h : fields.readField? key slots s = some outcome) : String.ofList key ∈ fields.names := by
  induction fields with
  | nil => cases h
  | cons name form rest ih =>
    obtain ⟨slot, slots⟩ := slots
    rw [names, List.mem_cons]
    by_cases hkey : key = name.toList
    · left
      rw [hkey, String.ofList_toList]
    · right
      rw [readField?, if_neg hkey] at h
      cases hrest : rest.readField? key slots s with
      | none =>
        rw [hrest] at h
        cases h
      | some outcome => exact ih hrest

section Field

variable {α : Type} {name : String} {form : Form α} {rest : Fields types}

/-- The first field is read from the colon after its name on. -/
theorem readField?_head (hform : form.Lossless) (layout : Layout) (depth : Nat) (a : α)
    (slots : Slots types) {s : List Char} (hs : EndsValue s) :
    (cons name form rest).readField? name.toList (none, slots)
      (layout.colon ++ (form.write layout depth a ++ s)) = some (.ok ((some a, slots), s)) := by
  obtain ⟨blanks, hblanks, hcolon⟩ :=
    takeColon_colon layout (form.write layout depth a ++ s)
  have hread := hform.read_blanks hblanks (form.write layout depth a ++ s)
  rw [hform.read_write layout depth a s hs] at hread
  have hvalue : readValue name form none (layout.colon ++ (form.write layout depth a ++ s)) =
      .ok (a, s) := by
    rw [readValue, hcolon]
    exact hread
  rw [readField?, if_pos rfl, hvalue]

/-- A key of another field leaves the slot of the first one as it is. -/
theorem readField?_tail (hname : name ∉ rest.names) {key : List Char} {slot : Option α}
    {slots slots' : Slots types} {s r : List Char}
    (h : rest.readField? key slots s = some (.ok (slots', r))) :
    (cons name form rest).readField? key (slot, slots) s = some (.ok ((slot, slots'), r)) := by
  have hkey : key ≠ name.toList := by
    rintro rfl
    have hmem := mem_names_of_readField? h
    rw [String.ofList_toList] at hmem
    exact hname hmem
  rw [readField?, if_neg hkey, h]

end Field

/-! ### All fields -/

section All

variable {fields : Fields types} {slots slots' : Slots types} {first : Bool}
  {s t u r key : List Char}

theorem readAll_close (hn : nextKey first s = .ok (.close r)) :
    fields.readAll slots first s = .ok (slots, r) := by
  rw [readAll]
  split <;> simp_all

theorem readAll_field (hn : nextKey first s = .ok (.item t)) (hk : takeText t = .ok (key, u))
    (hf : fields.readField? key slots u = some (.ok (slots', r))) :
    fields.readAll slots first s = fields.readAll slots' false r := by
  rw [readAll]
  split
  · simp_all
  · simp_all
  · rename_i heq
    cases hn.symm.trans heq
    split
    · simp_all
    · rename_i heq
      cases hk.symm.trans heq
      split <;> simp_all

end All

/-- The fields `rest` are some of `fields`: with their slots in place among all slots, as `place`
says, a key of one of them is read as it is among them alone. -/
def Placed (fields : Fields all) (rest : Fields types) (place : Slots types → Slots all) : Prop :=
  ∀ key slots s slots' r, rest.readField? key slots s = some (.ok (slots', r)) →
    fields.readField? key (place slots) s = some (.ok (place slots', r))

theorem Placed.self (fields : Fields types) : Placed fields fields id :=
  fun _ _ _ _ _ hread => hread

theorem Placed.tail {α : Type} {name : String} {form : Form α} {fields : Fields all}
    {rest : Fields types} {place : Slots (α :: types) → Slots all}
    (h : Placed fields (cons name form rest) place) (hname : name ∉ rest.names)
    (slot : Option α) : Placed fields rest fun slots => place (slot, slots) :=
  fun _ _ _ _ _ hread => h _ _ _ _ _ (readField?_tail hname hread)

/-- The rows of the fields that are left fill their slots. -/
theorem readAll_rows {fields : Fields all} {rest : Fields types} (hrest : rest.Lossless)
    {place : Slots types → Slots all} (hplace : Placed fields rest place) (layout : Layout)
    (depth : Nat) (first : Bool) (values : Values types) {blanks : List Char}
    (hblanks : Blank blanks) (r : List Char) :
    fields.readAll (place (Slots.empty types)) first
        (layout.rows depth first (rest.write layout depth values) ++ (blanks ++ '\x7d' :: r)) =
      .ok (place (Slots.full values), r) := by
  -- By induction on the fields that are left: `place` comes to hold the slots filled so far.
  induction hrest generalizing first with
  | nil => exact readAll_close (nextKey_close first hblanks r)
  | @cons _ _ name form rest hname hform _ ih =>
    obtain ⟨a, as⟩ := values
    have hends : EndsValue (layout.rows depth false (rest.write layout depth as) ++
        (blanks ++ '\x7d' :: r)) := Layout.endsValue_rows hblanks (by decide) r
    have hfield := hplace _ _ _ _ _
      (readField?_head hform layout depth a (Slots.empty _) hends)
    have hnext := nextKey_lead layout depth first
    simp only [write, Layout.rows, writeText_append, List.cons_append, List.append_assoc]
    rw [Slots.empty, readAll_field (hnext _) (takeText_flatMap_writeChar _ _) hfield]
    exact ih (hplace.tail hname (some a)) false as

end Fields

theorem Form.lossless_record {types : List Type} {σ : Type} (name : String)
    {fields : Fields types} (hfields : fields.Lossless) {make : Values types → σ}
    {parts : σ → Values types} (hparts : ∀ a, make (parts a) = a) :
    (Form.record name fields make parts).Lossless where
  read_skipBlanks s := by simp only [record, skipBlanks_skipBlanks]
  starts layout depth a := by
    obtain ⟨r, henclose⟩ := layout.enclose_eq_cons depth '\x7b' '\x7d'
      (fields.write layout (depth + 1) (parts a))
    exact ⟨'\x7b', r, henclose, by decide⟩
  read_write layout depth a rest _ := by
    obtain ⟨blanks, hblanks, hskip⟩ := layout.skipBlanks_enclose depth
      (show isBlank '\x7b' = false by decide) '\x7d' (fields.write layout (depth + 1) (parts a))
      rest
    have hread := Fields.readAll_rows hfields (Fields.Placed.self fields) layout (depth + 1) true
      (parts a) hblanks rest
    rw [id, id] at hread
    simp only [record, hskip, hread, Fields.complete_full, hparts]

end SlotConsensus.Json
