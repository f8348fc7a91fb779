import SlotConsensus.Proofs.Bytes.Hex
import SlotConsensus.Proofs.Curve.Point

/-! Which texts are keys, and of which key.  A text may start with marks, be in either case and give
any form of the bytes that is read, but of all the texts of one key a single one is written. -/

namespace SlotConsensus

/-- A key that was read is read back from the bytes that it is written as. -/
def KeyFormat.Rereads (f : KeyFormat) : Prop :=
  ∀ bytes p, f.read bytes = .ok p → f.read (f.write p).toList = .ok p

theorem KeyFormat.read_secp256k1_eq_ok_iff {bytes : List UInt8} {p : Curve.Point} :
    KeyFormat.secp256k1.read bytes = .ok p ↔ Curve.Point.decode? bytes = some p := by
  dsimp only [KeyFormat.secp256k1]
  cases Curve.Point.decode? bytes <;> simp

theorem KeyFormat.rereads_secp256k1 : KeyFormat.secp256k1.Rereads := fun _ _ h =>
  read_secp256k1_eq_ok_iff.mpr (Curve.Point.decode?_encode (read_secp256k1_eq_ok_iff.mp h))

namespace PublicKey

variable {f : KeyFormat} {bytes : List UInt8} {text : String} {k : PublicKey}

/-! ### Marks -/

/-- The text after `n` copies of `0x`. -/
def marked (n : Nat) (text : List Char) : List Char :=
  (List.replicate n ['0', 'x']).flatten ++ text

theorem marked_succ (n : Nat) (text : List Char) :
    marked (n + 1) text = '0' :: 'x' :: marked n text := rfl

theorem dropMarks_of_not_marked {u : List Char} (hu : ¬['0', 'x'] <+: u) : dropMarks u = u := by
  unfold dropMarks
  split
  · exact absurd (List.prefix_append ['0', 'x'] _) hu
  · rfl

theorem dropMarks_marked {u : List Char} (hu : ¬['0', 'x'] <+: u) (n : Nat) :
    dropMarks (marked n u) = u := by
  induction n with
  | zero => exact dropMarks_of_not_marked hu
  | succ n ih => rw [marked_succ, dropMarks, ih]

theorem exists_marked (text : List Char) :
    ∃ n u, text = marked n u ∧ ¬['0', 'x'] <+: u := by
  induction text using dropMarks.induct with
  | case1 rest ih =>
    obtain ⟨n, u, hrest, hu⟩ := ih
    exact ⟨n + 1, u, by rw [marked_succ, hrest], hu⟩
  | case2 text h =>
    refine ⟨0, text, rfl, ?_⟩
    rintro ⟨rest, rfl⟩
    exact h rest rfl

/-- What is marked by `0x` is not hexadecimal, as `x` is no digit. -/
theorem not_marked_of_isText {u : List Char} (h : Hex.IsText u) : ¬['0', 'x'] <+: u := by
  rintro ⟨rest, rfl⟩
  exact absurd (h.2 'x' (by simp)) (by decide)

/-! ### Reading -/

theorem ofBytesIn_eq_ok_iff :
    ofBytesIn f bytes = .ok k ↔ ∃ p, f.read bytes = .ok p ∧ ⟨f.write p⟩ = k := by
  unfold ofBytesIn
  cases f.read bytes <;> simp

theorem ofBytesIn_error {e : KeyError} (h : ofBytesIn f bytes = .error e) :
    ∃ reason, e = .invalidPublicKey reason := by
  unfold ofBytesIn at h
  split at h
  · cases h
  · cases h
    exact ⟨_, rfl⟩

/-- A text that is hexadecimal after its marks is read as its bytes are. -/
theorem ofHexIn_of_spells_dropMarks (h : Hex.Spells (dropMarks text.toList) bytes) :
    ofHexIn f text = ofBytesIn f bytes := by
  have hdecode : Hex.decode (String.ofList (dropMarks text.toList)) = .ok bytes :=
    Hex.decode_eq_ok_iff.mpr (by rwa [String.toList_ofList])
  rw [ofHexIn, hdecode]

theorem ofHexIn_of_spells {n : Nat} {u : List Char} (htext : text.toList = marked n u)
    (hu : Hex.Spells u bytes) : ofHexIn f text = ofBytesIn f bytes :=
  ofHexIn_of_spells_dropMarks
    (by rwa [htext, dropMarks_marked (not_marked_of_isText hu.isText)])

/-- The text spells the short or the long form of a point of the curve. -/
def Denotes (text : String) (p : Curve.Point) : Prop :=
  p.onCurve = true ∧ ∃ bytes, (bytes = p.encode.toList ∨ bytes = p.long) ∧
    Hex.Spells (dropMarks text.toList) bytes

theorem ofHex_of_denotes {p : Curve.Point} (h : Denotes text p) :
    ofHex text = .ok (ofPoint p) := by
  obtain ⟨hp, bytes, hbytes, htext⟩ := h
  have hread : Curve.Point.decode? bytes = some p := by
    rcases hbytes with rfl | rfl
    · exact Curve.Point.decode?_encode_of_onCurve hp
    · exact Curve.Point.decode?_long hp
  exact (ofHexIn_of_spells_dropMarks htext).trans
    (ofBytesIn_eq_ok_iff.mpr ⟨p, KeyFormat.read_secp256k1_eq_ok_iff.mpr hread, rfl⟩)

/-- Any other text is refused for what stands after its marks. -/
theorem ofHexIn_of_not_isText {n : Nat} {u : List Char} (htext : text.toList = marked n u)
    (hmark : ¬['0', 'x'] <+: u) (hu : ¬Hex.IsText u) :
    ∃ cause, ofHexIn f text = .error (.hexDecode cause) := by
  obtain ⟨cause, hdecode⟩ : ∃ cause, Hex.decode (String.ofList u) = .error cause :=
    Hex.decode_eq_error_iff.mpr (by rwa [String.toList_ofList])
  exact ⟨cause, by rw [ofHexIn, htext, dropMarks_marked hmark, hdecode]⟩

theorem ofHexIn_eq_ok_iff :
    ofHexIn f text = .ok k ↔
      ∃ n u bytes, text.toList = marked n u ∧ Hex.IsText u ∧ Hex.Spells u bytes ∧
        ofBytesIn f bytes = .ok k := by
  constructor
  · intro h
    obtain ⟨n, u, htext, hmark⟩ := exists_marked text.toList
    by_cases hu : Hex.IsText u
    · obtain ⟨bytes, hbytes⟩ := Hex.exists_spells_iff.mpr hu
      exact ⟨n, u, bytes, htext, hu, hbytes, (ofHexIn_of_spells htext hbytes).symm.trans h⟩
    · obtain ⟨cause, herror⟩ := ofHexIn_of_not_isText (f := f) htext hmark hu
      cases herror.symm.trans h
  · rintro ⟨n, u, bytes, htext, -, hbytes, h⟩
    exact (ofHexIn_of_spells htext hbytes).trans h

/-- A text is refused as hexadecimal for what stands after its marks alone, and as a key for the
bytes that this spells. -/
theorem ofHexIn_errors {n : Nat} {u : List Char} (htext : text.toList = marked n u)
    (hmark : ¬['0', 'x'] <+: u) :
    ((∃ cause, ofHexIn f text = .error (.hexDecode cause)) ↔ ¬Hex.IsText u) ∧
      ((∃ reason, ofHexIn f text = .error (.invalidPublicKey reason)) ↔
        Hex.IsText u ∧ ∀ k, ofHexIn f text ≠ .ok k) := by
  by_cases hu : Hex.IsText u
  · obtain ⟨bytes, hbytes⟩ := Hex.exists_spells_iff.mpr hu
    have hread := ofHexIn_of_spells (f := f) htext hbytes
    cases h : ofBytesIn f bytes with
    | ok k => simp [hread, h, hu]
    | error e =>
      obtain ⟨reason, rfl⟩ := ofBytesIn_error h
      simp [hread, h, hu]
  · obtain ⟨cause, herror⟩ := ofHexIn_of_not_isText (f := f) htext hmark hu
    simp [herror, hu]

/-! ### The written text -/

/-- The key is written in one text of 66 lower-case digits, and read back from it, also when it is
marked, and from its bytes. -/
structure Canonical (f : KeyFormat) (k : PublicKey) : Prop where
  length : k.toHex.toList.length = 66
  digits : ∀ c ∈ k.toHex.toList, Hex.IsDigit c ∧ c.toLower = c
  ofHex : ofHexIn f k.toHex = .ok k
  ofDisplay : ofHexIn f (toString k) = .ok k
  ofBytes : ofBytesIn f k.bytes.toList = .ok k

theorem canonical_of_ofBytesIn (hf : f.Rereads) (h : ofBytesIn f bytes = .ok k) :
    Canonical f k := by
  obtain ⟨p, hread, rfl⟩ := ofBytesIn_eq_ok_iff.mp h
  have hagain : ofBytesIn f (f.write p).toList = .ok ⟨f.write p⟩ :=
    ofBytesIn_eq_ok_iff.mpr ⟨p, hf bytes p hread, rfl⟩
  have hspells := Hex.spells_encode (f.write p).toList
  have hdisplay : ("0x" ++ Hex.encode (f.write p).toList).toList =
      marked 1 (Hex.encode (f.write p).toList).toList := String.toList_append
  exact {
    length := by rw [toHex, Hex.length_encode, Octets.length_toList]
    digits := fun c => Hex.isDigit_of_mem_encode
    ofHex := (ofHexIn_of_spells (n := 0) rfl hspells).trans hagain
    ofDisplay := (ofHexIn_of_spells hdisplay hspells).trans hagain
    ofBytes := hagain }

theorem canonical_of_ofHexIn (hf : f.Rereads) (h : ofHexIn f text = .ok k) : Canonical f k := by
  obtain ⟨-, -, bytes, -, -, -, hbytes⟩ := ofHexIn_eq_ok_iff.mp h
  exact canonical_of_ofBytesIn hf hbytes

theorem Canonical.eq_iff {l : PublicKey} (hk : Canonical f k) (hl : Canonical f l) :
    k = l ↔ k.toHex = l.toHex := by
  constructor
  · rintro rfl
    rfl
  · intro h
    have hread := hl.ofHex
    rw [← h, hk.ofHex] at hread
    exact Except.ok.inj hread

/-- A text is a key if what stands after its marks is hexadecimal and spells the bytes of one, and
otherwise the error tells which of the two it is not.  Every key that was read has a canonical text,
and keys are equal when these texts are.  Of the format no more is assumed than that keys are read
back from the bytes that it writes them as. -/
theorem texts_and_canonical_form (f : KeyFormat) (hf : f.Rereads) :
    (∀ (text : String) (k : PublicKey), ofHexIn f text = .ok k ↔
      ∃ n u bytes, text.toList = marked n u ∧ Hex.IsText u ∧ Hex.Spells u bytes ∧
        ofBytesIn f bytes = .ok k) ∧
    (∀ text : String, ∃ n u, text.toList = marked n u ∧ ¬['0', 'x'] <+: u ∧
      ((∃ cause, ofHexIn f text = .error (.hexDecode cause)) ↔ ¬Hex.IsText u) ∧
      ((∃ reason, ofHexIn f text = .error (.invalidPublicKey reason)) ↔
        Hex.IsText u ∧ ∀ k, ofHexIn f text ≠ .ok k)) ∧
    (∀ (text : String) (k : PublicKey), ofHexIn f text = .ok k → Canonical f k) ∧
    (∀ (bytes : List UInt8) (k : PublicKey), ofBytesIn f bytes = .ok k → Canonical f k) ∧
    ∀ (text other : String) (k l : PublicKey), ofHexIn f text = .ok k → ofHexIn f other = .ok l →
      (k = l ↔ k.toHex = l.toHex) := by
  refine ⟨fun _ _ => ofHexIn_eq_ok_iff, ?_, fun _ _ => canonical_of_ofHexIn hf,
    fun _ _ => canonical_of_ofBytesIn hf, ?_⟩
  · intro text
    obtain ⟨n, u, htext, hmark⟩ := exists_marked text.toList
    exact ⟨n, u, htext, hmark, ofHexIn_errors htext hmark⟩
  · intro text other k l hk hl
    exact (canonical_of_ofHexIn hf hk).eq_iff (canonical_of_ofHexIn hf hl)

/-- The base point in the long form, with two marks and in capitals. -/
def baseText : String :=
  "0x0x0479BE667EF9DCBBAC55A06295CE870B07029BFCDB2DCE28D959F2815B16F81798" ++
    "483ADA7726A3C4655DA4FBFC0E1108A8FD17B448A68554199C47D08FFB10D4B8"

/-- The characters of a text in two parts.  A literal is a list of characters from the start, so
this finds them without decoding any bytes. -/
theorem toList_ofList_append (front back : List Char) :
    (String.ofList front ++ String.ofList back).toList = front ++ back := by
  rw [String.toList_append, String.toList_ofList, String.toList_ofList]

theorem denotes_baseText : Denotes baseText .base := by
  have htext : baseText.toList = _ := toList_ofList_append _ _
  refine ⟨rfl, _, .inr rfl, ?_⟩
  rw [htext]
  decide

/-- Its canonical text is another one. -/
theorem texts_and_canonical_form_base :
    KeyFormat.secp256k1.Rereads ∧
    ∃ k, ofHex baseText = .ok k ∧
      k.toHex = "0279be667ef9dcbbac55a06295ce870b07029bfcdb2dce28d959f2815b16f81798" ∧
      ofHex k.toHex = .ok k ∧ ofHex (toString k) = .ok k := by
  obtain ⟨-, -, hcanonical, -⟩ := texts_and_canonical_form .secp256k1 KeyFormat.rereads_secp256k1
  have hread := ofHex_of_denotes denotes_baseText
  have hbase := hcanonical baseText _ hread
  have hdigits : (ofPoint .base).toHex =
      "0279be667ef9dcbbac55a06295ce870b07029bfcdb2dce28d959f2815b16f81798" :=
    congrArg String.ofList (by decide)
  exact ⟨KeyFormat.rereads_secp256k1, _, hread, hdigits, hbase.ofHex, hbase.ofDisplay⟩

end PublicKey

end SlotConsensus
