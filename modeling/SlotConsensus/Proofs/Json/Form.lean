import SlotConsensus.Proofs.Json.Layout
import SlotConsensus.Proofs.Json.Text

/-! Forms that lose nothing.  What such a form writes, in any layout and at any depth, it reads back
off the front of a text, and stops where it stopped writing.  The forms of numbers, texts, byte
strings and lists are of this kind. -/

namespace SlotConsensus.Json

theorem startsValue_of_isDigit {c : Char} (h : c.isDigit = true) : startsValue c = true := by
  have hne : ∀ d : Char, d.isDigit = false → c ≠ d := by
    rintro d hd rfl
    rw [h] at hd
    cases hd
  exact startsValue_iff.mpr
    ⟨by simp [isBlank, hne ' ' rfl, hne '\n' rfl, hne '\t' rfl, hne '\r' rfl], hne ']' rfl⟩

namespace Form

variable {α β : Type}

/-- Reading undoes writing.  The blanks before a value do not count, and a value starts with a
character that a list can go on with. -/
structure Lossless (f : Form α) : Prop where
  read_skipBlanks : ∀ s, f.read (skipBlanks s) = f.read s
  starts : ∀ layout depth a, ∃ c r, f.write layout depth a = c :: r ∧ startsValue c = true
  read_write : ∀ layout depth a rest, EndsValue rest →
    f.read (f.write layout depth a ++ rest) = .ok (a, rest)

/-- The text of a value, in the given layout, is parsed as that value and is the text of no other
one. -/
structure Restores (f : Form α) (layout : Layout) : Prop where
  parse_print : ∀ a, f.parse (f.print layout a) = .ok a
  print_ne : ∀ a b, a ≠ b → f.print layout a ≠ f.print layout b

namespace Lossless

variable {f : Form α}

theorem read_blanks (hf : f.Lossless) {blanks : List Char} (h : Blank blanks) (s : List Char) :
    f.read (blanks ++ s) = f.read s := by
  rw [← hf.read_skipBlanks, skipBlanks_append h, hf.read_skipBlanks]

/-- A list goes on with an item that stands on its row. -/
theorem nextItem_write (hf : f.Lossless) (layout : Layout) (depth : Nat) (first : Bool) (a : α)
    (s : List Char) :
    nextItem first (layout.lead depth first ++ (f.write layout depth a ++ s)) =
      .ok (.item (f.write layout depth a ++ s)) := by
  obtain ⟨c, r, hwrite, hc⟩ := hf.starts layout depth a
  rw [hwrite, List.cons_append]
  exact nextItem_lead layout depth first hc (r ++ s)

theorem parse_print (hf : f.Lossless) (layout : Layout) (a : α) :
    f.parse (f.print layout a) = .ok a := by
  have hread := hf.read_write layout 0 a [] endsValue_nil
  rw [List.append_nil] at hread
  simp only [parse, print, String.toList_ofList, hread]
  rfl

theorem restores (hf : f.Lossless) (layout : Layout) : f.Restores layout where
  parse_print := hf.parse_print layout
  print_ne a b hne hprint := by
    have ha := hf.parse_print layout a
    rw [hprint, hf.parse_print layout b] at ha
    exact hne (Except.ok.inj ha).symm

theorem convert (hf : f.Lossless) {make : α → β} {parts : β → α}
    (hparts : ∀ b, make (parts b) = b) : (f.convert make parts).Lossless where
  read_skipBlanks s := by simp only [Form.convert, hf.read_skipBlanks]
  starts layout depth b := hf.starts layout depth (parts b)
  read_write layout depth b rest hrest := by
    simp only [Form.convert, hf.read_write layout depth (parts b) rest hrest, hparts]

end Lossless

/-! ### Numbers and texts -/

theorem toDigits_eq_cons (n : Nat) : ∃ c r, Nat.toDigits 10 n = c :: r ∧ c.isDigit = true := by
  cases hdigits : Nat.toDigits 10 n with
  | nil => simp at hdigits
  | cons c r => exact ⟨c, r, rfl, isDigit_of_mem (n := n) (by simp [hdigits])⟩

theorem readInteger_toDigits (expected : String) {size : Nat} (hsize : size ≤ UInt64.size)
    (n : Fin size) {rest : List Char} (hrest : EndsValue rest) :
    readInteger expected size (Nat.toDigits 10 n.val ++ rest) = .ok (n, rest) := by
  have hnumber := takeNumber_toDigits (Nat.le_of_lt_succ (Nat.lt_of_lt_of_le n.isLt hsize)) hrest
  obtain ⟨c, r, hdigits, hc⟩ := toDigits_eq_cons n.val
  have hskip : skipBlanks (c :: (r ++ rest)) = c :: (r ++ rest) :=
    skipBlanks_cons (startsValue_iff.mp (startsValue_of_isDigit hc)).1 _
  rw [hdigits, List.cons_append] at hnumber ⊢
  rw [readInteger, hskip]
  simp [hc, hnumber]

theorem lossless_integer (name : String) {size : Nat} (hsize : size ≤ UInt64.size) :
    (integer name size).Lossless where
  read_skipBlanks s := by simp only [integer, readInteger, skipBlanks_skipBlanks]
  starts _ _ n := by
    obtain ⟨c, r, hdigits, hc⟩ := toDigits_eq_cons n.val
    exact ⟨c, r, hdigits, startsValue_of_isDigit hc⟩
  read_write _ _ n _ hrest := readInteger_toDigits name hsize n hrest

theorem lossless_byte : byte.Lossless := (lossless_integer "u8" (by decide)).convert fun _ => rfl

theorem lossless_word32 : word32.Lossless :=
  (lossless_integer "u32" (by decide)).convert fun _ => rfl

theorem lossless_word64 : word64.Lossless :=
  (lossless_integer "u64" (Nat.le_refl _)).convert fun _ => rfl

theorem lossless_count : count.Lossless :=
  (lossless_integer "usize" (Nat.le_refl _)).convert fun _ => rfl

theorem lossless_text : text.Lossless where
  read_skipBlanks s := by simp only [text, readText, skipBlanks_skipBlanks]
  starts _ _ t := ⟨'"', _, rfl, by decide⟩
  read_write _ _ t rest _ := by
    have hskip : ∀ s, skipBlanks ('"' :: s) = '"' :: s := skipBlanks_cons (by decide)
    simp only [text, readText, writeText_append, hskip, takeText_flatMap_writeChar,
      String.ofList_toList]

/-! ### Lists -/

section Items

variable {item : Form α} {first : Bool} {s t r : List Char} {a : α}

theorem readItems_close (hn : nextItem first s = .ok (.close r)) :
    item.readItems first s = .ok ([], r) := by
  rw [readItems]
  split <;> simp_all

theorem readItems_item (hn : nextItem first s = .ok (.item t)) (hr : item.read t = .ok (a, r)) :
    item.readItems first s = (item.readItems false r).map fun (as, u) => (a :: as, u) := by
  rw [readItems]
  split
  · simp_all
  · simp_all
  · rename_i heq
    cases hn.symm.trans heq
    split
    · simp_all
    · rename_i heq
      cases hr.symm.trans heq
      cases item.readItems false r <;> rfl

end Items

variable {item : Form α} (hitem : item.Lossless) (layout : Layout) {blanks : List Char}
  (hblanks : Blank blanks)
include hitem hblanks

theorem readItems_rows (depth : Nat) (first : Bool) (as : List α) (rest : List Char) :
    item.readItems first (layout.rows depth first (as.map (item.write layout depth)) ++
      (blanks ++ ']' :: rest)) = .ok (as, rest) := by
  induction as generalizing first with
  | nil => exact readItems_close (nextItem_close first hblanks rest)
  | cons a as ih =>
    have hends : EndsValue (layout.rows depth false (as.map (item.write layout depth)) ++
        (blanks ++ ']' :: rest)) := Layout.endsValue_rows hblanks (by decide) rest
    have hread := hitem.read_write layout depth a _ hends
    have hnext := hitem.nextItem_write layout depth first a
    rw [List.map_cons, Layout.rows, List.append_assoc, List.append_assoc,
      readItems_item (hnext _) hread, ih]
    rfl

theorem readExactly_rows (expected : String) (depth done : Nat) (as : List α) (rest : List Char) :
    item.readExactly expected done as.length
      (layout.rows depth (done == 0) (as.map (item.write layout depth)) ++
        (blanks ++ ']' :: rest)) = .ok (⟨as, rfl⟩, blanks ++ ']' :: rest) := by
  induction as generalizing done with
  | nil => rfl
  | cons a as ih =>
    have hends : EndsValue (layout.rows depth false (as.map (item.write layout depth)) ++
        (blanks ++ ']' :: rest)) := Layout.endsValue_rows hblanks (by decide) rest
    have hread := hitem.read_write layout depth a _ hends
    have hnext := hitem.nextItem_write layout depth (done == 0) a
    have hrest := ih (done + 1)
    rw [List.map_cons, Layout.rows, List.append_assoc, List.append_assoc]
    change item.readExactly expected done (as.length + 1) _ = _
    rw [readExactly, hnext]
    simp only [hread]
    rw [show (done + 1 == 0) = false from rfl] at hrest
    rw [hrest]

omit hblanks

theorem lossless_list : item.list.Lossless where
  read_skipBlanks s := by simp only [list, skipBlanks_skipBlanks]
  starts layout depth as := by
    obtain ⟨r, henclose⟩ :=
      layout.enclose_eq_cons depth '[' ']' (as.map (item.write layout (depth + 1)))
    exact ⟨'[', r, henclose, by decide⟩
  read_write layout depth as rest _ := by
    obtain ⟨blanks, hblanks, hskip⟩ := layout.skipBlanks_enclose depth
      (show isBlank '[' = false by decide) ']' (as.map (item.write layout (depth + 1))) rest
    simp only [list, hskip]
    exact readItems_rows hitem layout hblanks (depth + 1) true as rest

omit hitem

theorem lossless_octets (n : Nat) : (octets n).Lossless where
  read_skipBlanks s := by simp only [octets, skipBlanks_skipBlanks]
  starts layout depth o := (lossless_list lossless_byte).starts layout depth o.toList
  read_write layout depth o rest _ := by
    obtain ⟨bytes, rfl⟩ := o
    obtain ⟨blanks, hblanks, hskip⟩ := layout.skipBlanks_enclose depth
      (show isBlank '[' = false by decide) ']' (bytes.map (byte.write layout (depth + 1))) rest
    have hread := readExactly_rows lossless_byte layout hblanks
      ("an array of length " ++ toString bytes.length) (depth + 1) 0 bytes rest
    rw [show (0 == 0) = true from rfl] at hread
    simp only [octets, list, hskip, hread, closeList_close hblanks]

end Form

end SlotConsensus.Json
