import SlotConsensus.Bytes.Hex
import SlotConsensus.Proofs.Except

/-! Which texts are hexadecimal, and of what.  A text has a value if it consists of an even number
of digits, and the value is the byte string whose digits these are when capitals are ignored. -/

namespace SlotConsensus.Hex

/-- A digit of either case. -/
def IsDigit (c : Char) : Prop :=
  ('0' ≤ c ∧ c ≤ '9') ∨ ('a' ≤ c ∧ c ≤ 'f') ∨ ('A' ≤ c ∧ c ≤ 'F')

instance : DecidablePred IsDigit := fun c => by unfold IsDigit; infer_instance

/-- An even number of digits of either case. -/
def IsText (text : List Char) : Prop := text.length % 2 = 0 ∧ ∀ c ∈ text, IsDigit c

/-- The characters are the digits of the bytes, some of them perhaps capitals. -/
def Spells (text : List Char) (bytes : List UInt8) : Prop :=
  text.map Char.toLower = bytes.flatMap digits

instance {text : List Char} {bytes : List UInt8} : Decidable (Spells text bytes) :=
  inferInstanceAs (Decidable (text.map Char.toLower = bytes.flatMap digits))

/-! ### Digits -/

theorem isDigit_iff {c : Char} : IsDigit c ↔ ∃ v, value? c = some v := by
  unfold IsDigit value?
  by_cases hdecimal : '0' ≤ c ∧ c ≤ '9'
  · rw [if_pos hdecimal]
    exact ⟨fun _ => ⟨_, rfl⟩, fun _ => .inl hdecimal⟩
  rw [if_neg hdecimal]
  by_cases hsmall : 'a' ≤ c ∧ c ≤ 'f'
  · rw [if_pos hsmall]
    exact ⟨fun _ => ⟨_, rfl⟩, fun _ => .inr (.inl hsmall)⟩
  rw [if_neg hsmall]
  by_cases hcapital : 'A' ≤ c ∧ c ≤ 'F'
  · rw [if_pos hcapital]
    exact ⟨fun _ => ⟨_, rfl⟩, fun _ => .inr (.inr hcapital)⟩
  rw [if_neg hcapital]
  simp only [hdecimal, hsmall, hcapital, or_false, reduceCtorEq, exists_false]

theorem eq_ofNat_of_between {first last c : Char} (h : first ≤ c ∧ c ≤ last) :
    ∃ n ≤ last.toNat - first.toNat, c = Char.ofNat (first.toNat + n) := by
  have hfirst : first.toNat ≤ c.toNat := h.1
  have hlast : c.toNat ≤ last.toNat := h.2
  refine ⟨c.toNat - first.toNat, Nat.sub_le_sub_right hlast _, ?_⟩
  rw [Nat.add_sub_cancel' hfirst, Char.ofNat_toNat]

/-- What is true of each digit in the three ranges is true of all digits. -/
theorem IsDigit.by_ranges {p : Char → Prop} (hdecimal : ∀ n ≤ 9, p (Char.ofNat ('0'.toNat + n)))
    (hsmall : ∀ n ≤ 5, p (Char.ofNat ('a'.toNat + n)))
    (hcapital : ∀ n ≤ 5, p (Char.ofNat ('A'.toNat + n))) {c : Char} (h : IsDigit c) : p c := by
  rcases h with h | h | h
  · obtain ⟨n, hn, rfl⟩ := eq_ofNat_of_between h
    exact hdecimal n hn
  · obtain ⟨n, hn, rfl⟩ := eq_ofNat_of_between h
    exact hsmall n hn
  · obtain ⟨n, hn, rfl⟩ := eq_ofNat_of_between h
    exact hcapital n hn

theorem IsDigit.toNat_lt {c : Char} (h : IsDigit c) : c.toNat < 128 :=
  h.by_ranges (p := fun c => c.toNat < 128) (by decide) (by decide) (by decide)

/-- The value of a digit of either case is that of its small form. -/
theorem lower_of_value? {c : Char} {v : Nat} (h : value? c = some v) :
    v < 16 ∧ c.toLower = Nat.digitChar v := by
  have hdigit := isDigit_iff.mpr ⟨v, h⟩
  refine hdigit.by_ranges (p := fun c => ∀ v ∈ value? c, v < 16 ∧ c.toLower = Nat.digitChar v)
    ?_ ?_ ?_ v h
  all_goals decide

theorem value?_toLower (c : Char) : value? c.toLower = value? c := by
  have hcapitals : ∀ n ≤ 25, value? (Char.ofNat ('A'.toNat + n)).toLower =
      value? (Char.ofNat ('A'.toNat + n)) := by decide
  by_cases h : 'A' ≤ c ∧ c ≤ 'Z'
  · obtain ⟨n, hn, rfl⟩ := eq_ofNat_of_between h
    exact hcapitals n hn
  · have hsame : c.toLower = c := dif_neg h
    rw [hsame]

theorem value?_digitChar {d : Nat} (hd : d < 16) : value? (Nat.digitChar d) = some d := by
  have hall : ∀ d < 16, value? (Nat.digitChar d) = some d := by decide
  exact hall d hd

theorem value?_of_lower {c : Char} {v : Nat} (hv : v < 16) (h : c.toLower = Nat.digitChar v) :
    value? c = some v := by
  rw [← value?_toLower, h, value?_digitChar hv]

theorem toLower_digitChar {d : Nat} (hd : d < 16) :
    (Nat.digitChar d).toLower = Nat.digitChar d :=
  (lower_of_value? (value?_digitChar hd)).2

/-! ### Values -/

/-- The values of the two digits of a byte. -/
def halves (b : UInt8) : List Nat := [b.toNat / 16, b.toNat % 16]

theorem digits_eq (bytes : List UInt8) :
    bytes.flatMap digits = (bytes.flatMap halves).map Nat.digitChar := by
  rw [List.map_flatMap]
  rfl

theorem lt_of_mem_halves {bytes : List UInt8} {v : Nat} (h : v ∈ bytes.flatMap halves) :
    v < 16 := by
  obtain ⟨b, -, hb⟩ := List.mem_flatMap.mp h
  have hlt := b.toNat_lt
  simp only [halves, List.mem_cons, List.not_mem_nil, or_false] at hb
  omega

theorem length_halves (bytes : List UInt8) : (bytes.flatMap halves).length = 2 * bytes.length := by
  induction bytes with
  | nil => rfl
  | cons b rest ih =>
    rw [List.flatMap_cons, List.length_append, ih, List.length_cons, Nat.mul_succ, Nat.add_comm]
    rfl

theorem pack_cons_cons (high low : Nat) (rest : List Nat) :
    pack (high :: low :: rest) = (16 * high + low).toUInt8 :: pack rest := rfl

theorem pack_halves (bytes : List UInt8) : pack (bytes.flatMap halves) = bytes := by
  induction bytes with
  | nil => rfl
  | cons b rest ih =>
    have hbyte : (16 * (b.toNat / 16) + b.toNat % 16).toUInt8 = b := by
      rw [Nat.div_add_mod]
      exact UInt8.ofNat_toNat
    rw [List.flatMap_cons, halves, List.cons_append, List.cons_append, List.nil_append,
      pack_cons_cons, ih, hbyte]

theorem halves_pack : (values : List Nat) → values.length % 2 = 0 → (∀ v ∈ values, v < 16) →
    (pack values).flatMap halves = values
  | [], _, _ => rfl
  | [_], heven, _ => by simp at heven
  | high :: low :: rest, heven, hvalues => by
    simp only [List.forall_mem_cons] at hvalues
    obtain ⟨hhigh, hlow, hrest⟩ := hvalues
    have hbyte : (16 * high + low).toUInt8.toNat = 16 * high + low :=
      UInt8.toNat_ofNat_of_lt' (by rw [UInt8.size]; omega)
    have hrestEven : rest.length % 2 = 0 := by
      rw [List.length_cons, List.length_cons] at heven
      omega
    rw [pack_cons_cons, List.flatMap_cons, halves_pack rest hrestEven hrest, halves, hbyte,
      Nat.mul_add_div (by decide), Nat.div_eq_of_lt hlow, Nat.mul_add_mod, Nat.mod_eq_of_lt hlow]
    rfl

@[simp] theorem values_nil (position : Nat) : values position [] = .ok [] := rfl

theorem values_cons_of_some {position : Nat} {c : Char} {text : List Char} {v : Nat}
    (h : value? c = some v) :
    values position (c :: text) = (values (position + 1) text).map (v :: ·) := by
  rw [values, h]

theorem values_cons_of_none {position : Nat} {c : Char} {text : List Char} (h : value? c = none) :
    values position (c :: text) =
      .error (.badDigit ((String.utf8EncodeChar c).headD 0) position) := by
  rw [values, h]

theorem lower_of_values {position : Nat} {text : List Char} {vs : List Nat}
    (h : values position text = .ok vs) :
    (∀ v ∈ vs, v < 16) ∧ text.map Char.toLower = vs.map Nat.digitChar := by
  induction text generalizing position vs with
  | nil =>
    cases h
    exact ⟨List.forall_mem_nil _, rfl⟩
  | cons c text ih =>
    cases hv : value? c with
    | none =>
      rw [values_cons_of_none hv] at h
      cases h
    | some v =>
      rw [values_cons_of_some hv] at h
      obtain ⟨vs, hvs, rfl⟩ := map_eq_ok_iff.mp h
      obtain ⟨hlt, htext⟩ := ih hvs
      obtain ⟨hv, hc⟩ := lower_of_value? hv
      refine ⟨List.forall_mem_cons.mpr ⟨hv, hlt⟩, ?_⟩
      rw [List.map_cons, List.map_cons, hc, htext]

theorem values_of_lower (position : Nat) {text : List Char} {vs : List Nat}
    (hlt : ∀ v ∈ vs, v < 16) (htext : text.map Char.toLower = vs.map Nat.digitChar) :
    values position text = .ok vs := by
  induction text generalizing position vs with
  | nil =>
    rw [List.map_eq_nil_iff.mp htext.symm]
    rfl
  | cons c text ih =>
    cases vs with
    | nil => cases htext
    | cons v vs =>
      obtain ⟨hv, hlt⟩ := List.forall_mem_cons.mp hlt
      obtain ⟨hc, htext⟩ := List.cons.inj htext
      rw [values_cons_of_some (value?_of_lower hv hc), ih (position + 1) hlt htext]
      rfl

theorem values_of_spells (position : Nat) {text : List Char} {bytes : List UInt8}
    (h : Spells text bytes) : values position text = .ok (bytes.flatMap halves) :=
  values_of_lower position (fun _ => lt_of_mem_halves) (h.trans (digits_eq bytes))

/-! ### Texts -/

/-- Digits are one byte each. -/
theorem utf8ByteSize_eq_length {text : List Char} (h : ∀ c ∈ text, IsDigit c) :
    (String.ofList text).utf8ByteSize = text.length := by
  induction text with
  | nil => rfl
  | cons c text ih =>
    obtain ⟨hc, htext⟩ := List.forall_mem_cons.mp h
    have hsize : c.utf8Size = 1 :=
      Char.utf8Size_eq_one_iff.mpr (UInt32.le_iff_toNat_le.mpr (Nat.le_of_lt_succ hc.toNat_lt))
    rw [String.ofList_cons, String.utf8ByteSize_append, String.utf8ByteSize_singleton, ih htext,
      hsize, List.length_cons, Nat.add_comm]

theorem exists_values_iff (position : Nat) (text : List Char) :
    (∃ vs, values position text = .ok vs) ↔ ∀ c ∈ text, IsDigit c := by
  induction text generalizing position with
  | nil => simp
  | cons c text ih =>
    rw [List.forall_mem_cons, isDigit_iff, ← ih (position + 1)]
    cases hv : value? c with
    | none => simp [values_cons_of_none hv]
    | some v =>
      simp only [values_cons_of_some hv, map_eq_ok_iff, Option.some.injEq, exists_eq', true_and]
      constructor
      · rintro ⟨-, vs, hvs, -⟩
        exact ⟨vs, hvs⟩
      · rintro ⟨vs, hvs⟩
        exact ⟨v :: vs, vs, hvs, rfl⟩

theorem length_eq_of_values {position : Nat} {text : List Char} {vs : List Nat}
    (h : values position text = .ok vs) : text.length = vs.length := by
  simpa using congrArg List.length (lower_of_values h).2

theorem spells_pack {position : Nat} {text : List Char} {vs : List Nat}
    (h : values position text = .ok vs) (heven : text.length % 2 = 0) :
    Spells text (pack vs) := by
  obtain ⟨hlt, htext⟩ := lower_of_values h
  rw [Spells, htext, digits_eq, halves_pack vs (length_eq_of_values h ▸ heven) hlt]

theorem Spells.isText {text : List Char} {bytes : List UInt8} (h : Spells text bytes) :
    IsText text := by
  have hvalues := values_of_spells 0 h
  refine ⟨?_, (exists_values_iff 0 text).mp ⟨_, hvalues⟩⟩
  rw [length_eq_of_values hvalues, length_halves, Nat.mul_mod_right]

/-- The texts that stand for bytes are those of an even number of digits. -/
theorem exists_spells_iff {text : List Char} : (∃ bytes, Spells text bytes) ↔ IsText text := by
  constructor
  · rintro ⟨bytes, h⟩
    exact h.isText
  · rintro ⟨heven, hdigits⟩
    obtain ⟨vs, hvs⟩ := (exists_values_iff 0 text).mpr hdigits
    exact ⟨pack vs, spells_pack hvs heven⟩

theorem decode_eq_ok_iff {text : String} {bytes : List UInt8} :
    decode text = .ok bytes ↔ Spells text.toList bytes := by
  have hsize (hdigits : ∀ c ∈ text.toList, IsDigit c) :
      text.utf8ByteSize = text.toList.length := by
    rw [← utf8ByteSize_eq_length hdigits, String.ofList_toList]
  constructor
  · intro h
    unfold decode at h
    split at h
    · cases h
    · rename_i heven
      obtain ⟨vs, hvs, rfl⟩ := map_eq_ok_iff.mp h
      rw [hsize ((exists_values_iff 0 _).mp ⟨vs, hvs⟩)] at heven
      exact spells_pack hvs (Nat.mod_two_ne_one.mp heven)
  · intro h
    have heven : text.utf8ByteSize % 2 ≠ 1 := by
      rw [hsize h.isText.2, h.isText.1]
      decide
    rw [decode, if_neg heven, values_of_spells 0 h]
    exact congrArg Except.ok (pack_halves bytes)

theorem decode_eq_error_iff {text : String} :
    (∃ cause, decode text = .error cause) ↔ ¬IsText text.toList := by
  rw [← exists_spells_iff]
  simp only [← decode_eq_ok_iff]
  cases decode text with
  | ok bytes => simp
  | error cause => simp

/-! ### Written texts -/

theorem toLower_of_mem_digits {bytes : List UInt8} {c : Char} (h : c ∈ bytes.flatMap digits) :
    c.toLower = c := by
  rw [digits_eq] at h
  obtain ⟨v, hv, rfl⟩ := List.mem_map.mp h
  exact toLower_digitChar (lt_of_mem_halves hv)

theorem spells_encode (bytes : List UInt8) : Spells (encode bytes).toList bytes := by
  rw [encode, String.toList_ofList, Spells]
  exact (List.map_congr_left fun c => toLower_of_mem_digits).trans (List.map_id _)

theorem decode_encode (bytes : List UInt8) : decode (encode bytes) = .ok bytes :=
  decode_eq_ok_iff.mpr (spells_encode bytes)

theorem length_encode (bytes : List UInt8) : (encode bytes).toList.length = 2 * bytes.length := by
  rw [encode, String.toList_ofList, digits_eq, List.length_map, length_halves]

/-- Digits are written in lower case. -/
theorem isDigit_of_mem_encode {bytes : List UInt8} {c : Char} (h : c ∈ (encode bytes).toList) :
    IsDigit c ∧ c.toLower = c := by
  refine ⟨(spells_encode bytes).isText.2 c h, ?_⟩
  rw [encode, String.toList_ofList] at h
  exact toLower_of_mem_digits h

end SlotConsensus.Hex
