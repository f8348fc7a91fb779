import SlotConsensus.Json.Text
import SlotConsensus.Proofs.Bytes.Hex

/-! Strings are read back.  Every character, however it is written, is read as itself, up to the
quotation mark that closes the string. -/

namespace SlotConsensus.Json

/-- A control character is written by its number, in two digits after two zeros. -/
theorem takeUnit_digits {n : Nat} (hn : n < 0x20) (rest : List Char) :
    takeUnit ('0' :: '0' :: (Hex.digits n.toUInt8 ++ rest)) = .ok (n, rest) := by
  have hbyte : n.toUInt8.toNat = n := UInt8.toNat_ofNat_of_lt' (Nat.lt_trans hn (by decide))
  have hzero : Hex.value? '0' = some 0 := by decide
  have hhigh : Hex.value? (Nat.digitChar (n / 16)) = some (n / 16) :=
    Hex.value?_digitChar (by omega)
  have hlow : Hex.value? (Nat.digitChar (n % 16)) = some (n % 16) :=
    Hex.value?_digitChar (Nat.mod_lt n (by decide))
  have hvalue : 16 * (16 * (16 * 0 + 0) + n / 16) + n % 16 = n := by omega
  simp only [Hex.digits, hbyte, List.cons_append, List.nil_append, takeUnit, hzero, hhigh, hlow,
    hvalue]

theorem takeEscape_control {c : Char} (hc : c.toNat < 0x20) (rest : List Char) :
    takeEscape ('u' :: '0' :: '0' :: (Hex.digits c.toNat.toUInt8 ++ rest)) = .ok (c, rest) := by
  rw [takeEscape, takeUnit_digits hc]
  simp only
  rw [if_neg (by omega), if_neg (by omega), Char.ofNat_toNat]

theorem takeText_escape {r t : List Char} {c : Char} (h : takeEscape r = .ok (c, t)) :
    takeText ('\\' :: r) = (takeText t).map fun (cs, t) => (c :: cs, t) := by
  rw [takeText]
  split
  · simp_all
  · rename_i heq
    cases h.symm.trans heq
    rfl

/-- A character is read back as itself, and takes up no more than what was written. -/
theorem takeText_writeChar (c : Char) (s : List Char) :
    takeText (writeChar c ++ s) = (takeText s).map fun (cs, t) => (c :: cs, t) := by
  unfold writeChar
  -- The seven characters that are escaped by a letter or by themselves.
  iterate 7
    split
    · subst_vars
      exact takeText_escape rfl
  split
  · rename_i hcontrol
    exact takeText_escape (takeEscape_control hcontrol s)
  · rename_i hquote hbackslash _ _ _ _ _ hcontrol
    rw [List.singleton_append, takeText, if_neg hcontrol]
    · exact hquote
    · exact hbackslash

/-- The characters of a string are read back up to the quotation mark that closes it. -/
theorem takeText_flatMap_writeChar (cs rest : List Char) :
    takeText (cs.flatMap writeChar ++ '"' :: rest) = .ok (cs, rest) := by
  induction cs with
  | nil => rw [List.flatMap_nil, List.nil_append, takeText]
  | cons c cs ih =>
    rw [List.flatMap_cons, List.append_assoc, takeText_writeChar, ih]
    rfl

theorem writeText_append (cs rest : List Char) :
    writeText cs ++ rest = '"' :: (cs.flatMap writeChar ++ '"' :: rest) := by
  simp [writeText]

end SlotConsensus.Json
