import SlotConsensus.Json.Record
import SlotConsensus.Proofs.Json.Numeral

/-! What stands between two brackets, row after row, and where a list or an object goes on there.
Blanks make no difference: in either layout a reader finds the rows one after the other and then the
closing bracket. -/

namespace SlotConsensus.Json

/-! ### Blanks -/

def Blank (s : List Char) : Prop := ∀ c ∈ s, isBlank c = true

theorem skipBlanks_append {blanks : List Char} (h : Blank blanks) (s : List Char) :
    skipBlanks (blanks ++ s) = skipBlanks s :=
  List.dropWhile_append_of_pos h

theorem skipBlanks_cons {c : Char} (h : isBlank c = false) (s : List Char) :
    skipBlanks (c :: s) = c :: s :=
  List.dropWhile_cons_of_neg (by simp [h])

theorem skipBlanks_skipBlanks (s : List Char) : skipBlanks (skipBlanks s) = skipBlanks s := by
  induction s with
  | nil => rfl
  | cons c s ih =>
    cases hc : isBlank c with
    | true =>
      have hskip : skipBlanks (c :: s) = skipBlanks s := List.dropWhile_cons_of_pos hc
      rw [hskip, ih]
    | false => rw [skipBlanks_cons hc, skipBlanks_cons hc]

theorem Layout.blank_lineBreak (l : Layout) (depth : Nat) : Blank (l.lineBreak depth) := by
  intro c hc
  cases l with
  | compact => cases hc
  | indented =>
    rcases List.mem_cons.mp hc with rfl | hc
    · rfl
    · rw [List.eq_of_mem_replicate hc]
      rfl

/-! ### Rows -/

namespace Layout

/-- What stands before the first row, or before another one. -/
def lead (l : Layout) (depth : Nat) (first : Bool) : List Char :=
  (if first then [] else [',']) ++ l.lineBreak depth

/-- The rows from the first one on, or after another one. -/
def rows (l : Layout) (depth : Nat) : Bool → List (List Char) → List Char
  | _, [] => []
  | first, row :: rest => l.lead depth first ++ (row ++ l.rows depth false rest)

theorem items_eq_rows (l : Layout) (depth : Nat) (rs : List (List Char)) :
    l.items depth rs = l.rows depth true rs := by
  fun_induction items l depth rs with
  | case1 => rfl
  | case2 row => simp [rows, lead]
  | case3 row rest hrest ih =>
    cases rest with
    | nil => exact absurd rfl hrest
    | cons next rest => simp [rows, lead, ih]

theorem enclose_eq_cons (l : Layout) (depth : Nat) (opening closing : Char)
    (rs : List (List Char)) : ∃ r, l.enclose depth opening closing rs = opening :: r := by
  cases rs with
  | nil => exact ⟨_, rfl⟩
  | cons row rest => exact ⟨_, rfl⟩

/-- Between brackets stand the rows, and blanks before the closing one. -/
theorem skipBlanks_enclose (l : Layout) (depth : Nat) {opening : Char}
    (hopening : isBlank opening = false) (closing : Char) (rs : List (List Char))
    (rest : List Char) :
    ∃ blanks, Blank blanks ∧ skipBlanks (l.enclose depth opening closing rs ++ rest) =
      opening :: (l.rows (depth + 1) true rs ++ (blanks ++ closing :: rest)) := by
  cases rs with
  | nil => exact ⟨[], by simp [Blank], skipBlanks_cons hopening _⟩
  | cons row rs =>
    refine ⟨l.lineBreak depth, l.blank_lineBreak depth, ?_⟩
    simp only [enclose, items_eq_rows, List.cons_append, List.append_assoc, List.nil_append]
    exact skipBlanks_cons hopening _

/-- A value may end where the rows go on or the bracket is closed. -/
theorem endsValue_rows {l : Layout} {depth : Nat} {rs : List (List Char)} {blanks : List Char}
    (hblanks : Blank blanks) {closing : Char} (hclosing : goesOn closing = false)
    (rest : List Char) : EndsValue (l.rows depth false rs ++ (blanks ++ closing :: rest)) := by
  cases rs with
  | cons row rs => exact endsValue_cons.mpr (by decide)
  | nil =>
    cases blanks with
    | nil => exact endsValue_cons.mpr hclosing
    | cons c blanks =>
      have hc : isBlank c = true := hblanks c List.mem_cons_self
      simp only [isBlank, Bool.or_eq_true, decide_eq_true_eq] at hc
      refine endsValue_cons.mpr ?_
      rcases hc with ((rfl | rfl) | rfl) | rfl <;> decide

end Layout

/-! ### Where to go on -/

section Next

variable {s r : List Char} {c : Char}

theorem nextItem_first (hs : skipBlanks s = c :: r) (hc : c ≠ ']') :
    nextItem true s = .ok (.item (c :: r)) := by
  rw [nextItem, hs]
  simp

theorem nextItem_comma (hs : skipBlanks s = c :: r) (hc : c ≠ ']') :
    nextItem false (',' :: s) = .ok (.item (c :: r)) := by
  have hcomma : skipBlanks (',' :: s) = ',' :: s := skipBlanks_cons (by decide) s
  rw [nextItem, hcomma]
  simp [hs, hc]

theorem nextKey_first (hs : skipBlanks s = '"' :: r) : nextKey true s = .ok (.item r) := by
  rw [nextKey, hs]
  rfl

theorem nextKey_comma (hs : skipBlanks s = '"' :: r) :
    nextKey false (',' :: s) = .ok (.item r) := by
  have hcomma : skipBlanks (',' :: s) = ',' :: s := skipBlanks_cons (by decide) s
  rw [nextKey, hcomma]
  simp [hs]

end Next

/-- A value may start with the character: it is no blank and does not close a list. -/
def startsValue (c : Char) : Bool := !isBlank c && c != ']'

theorem startsValue_iff {c : Char} : startsValue c = true ↔ isBlank c = false ∧ c ≠ ']' := by
  simp [startsValue]

section Rows

variable (l : Layout) (depth : Nat) (first : Bool) {blanks : List Char}

theorem skipBlanks_lineBreak {c : Char} (hc : isBlank c = false) (r : List Char) :
    skipBlanks (l.lineBreak depth ++ c :: r) = c :: r := by
  rw [skipBlanks_append (l.blank_lineBreak depth), skipBlanks_cons hc]

theorem nextItem_lead {c : Char} (hc : startsValue c = true) (r : List Char) :
    nextItem first (l.lead depth first ++ c :: r) = .ok (.item (c :: r)) := by
  obtain ⟨hblank, hclose⟩ := startsValue_iff.mp hc
  have hskip := skipBlanks_lineBreak l depth hblank r
  cases first with
  | true => exact nextItem_first hskip hclose
  | false => exact nextItem_comma hskip hclose

theorem nextItem_close (hblanks : Blank blanks) (r : List Char) :
    nextItem first (blanks ++ ']' :: r) = .ok (.close r) := by
  rw [nextItem, skipBlanks_append hblanks, skipBlanks_cons (by decide)]
  rfl

theorem closeList_close (hblanks : Blank blanks) (r : List Char) :
    closeList (blanks ++ ']' :: r) = .ok r := by
  rw [closeList, skipBlanks_append hblanks, skipBlanks_cons (by decide)]
  rfl

theorem nextKey_lead (r : List Char) :
    nextKey first (l.lead depth first ++ '"' :: r) = .ok (.item r) := by
  have hskip := skipBlanks_lineBreak l depth (c := '"') (by decide) r
  cases first with
  | true => exact nextKey_first hskip
  | false => exact nextKey_comma hskip

theorem nextKey_close (hblanks : Blank blanks) (r : List Char) :
    nextKey first (blanks ++ '\x7d' :: r) = .ok (.close r) := by
  rw [nextKey, skipBlanks_append hblanks, skipBlanks_cons (by decide)]
  rfl

/-- After a key stands a colon, and in the indented layout a blank. -/
theorem takeColon_colon (s : List Char) :
    ∃ blanks, Blank blanks ∧ takeColon (l.colon ++ s) = .ok (blanks ++ s) := by
  cases l with
  | compact =>
    refine ⟨[], by simp [Blank], ?_⟩
    rw [Layout.colon, List.singleton_append, takeColon, skipBlanks_cons (by decide)]
    rfl
  | indented =>
    refine ⟨[' '], by simp [Blank, isBlank], ?_⟩
    rw [Layout.colon, List.cons_append, takeColon, skipBlanks_cons (by decide)]
    rfl

end Rows

end SlotConsensus.Json
