import SlotConsensus.Bytes.Octets
import SlotConsensus.Text.Quoted

/-! Hexadecimal texts, two digits a byte.  Writing uses lower-case digits and reading takes either
case.  Lengths and positions count the bytes of the text's UTF-8 form, so that a character outside
ASCII counts more than once. -/

namespace SlotConsensus.Hex

/-- Why a text is not the hexadecimal form of a byte string. -/
inductive Error
  | oddLength
  | wrongLength
  | badDigit (byte : UInt8) (position : Nat)
  deriving DecidableEq

/-- The byte of a bad digit is shown as the character with that number. -/
def Error.message : Error → String
  | oddLength => "Odd number of digits"
  | wrongLength => "Invalid string length"
  | badDigit byte position =>
    "Invalid character " ++ Text.quoted '\'' (Char.ofNat byte.toNat).toString ++
      " at position " ++ toString position

/-! ### Writing -/

/-- The two digits of a byte. -/
def digits (b : UInt8) : List Char :=
  [Nat.digitChar (b.toNat / 16), Nat.digitChar (b.toNat % 16)]

def encode (bytes : List UInt8) : String := String.ofList (bytes.flatMap digits)

/-! ### Reading -/

/-- The value of a digit of either case. -/
def value? (c : Char) : Option Nat :=
  if '0' ≤ c ∧ c ≤ '9' then some (c.toNat - '0'.toNat)
  else if 'a' ≤ c ∧ c ≤ 'f' then some (c.toNat - 'a'.toNat + 10)
  else if 'A' ≤ c ∧ c ≤ 'F' then some (c.toNat - 'A'.toNat + 10)
  else none

/-- The values of digits that start at `position`, or the first character that is no digit.  All
characters before it are digits of one byte, so its position is the number of them. -/
def values (position : Nat) : List Char → Except Error (List Nat)
  | [] => .ok []
  | c :: rest =>
    match value? c with
    | some v => (values (position + 1) rest).map (v :: ·)
    | none => .error (.badDigit ((String.utf8EncodeChar c).headD 0) position)

/-- Joins the values of digits in pairs. -/
def pack : List Nat → List UInt8
  | high :: low :: rest => (16 * high + low).toUInt8 :: pack rest
  | _ => []

/-- The bytes of a text of any even length. -/
def decode (text : String) : Except Error (List UInt8) :=
  if text.utf8ByteSize % 2 = 1 then .error .oddLength
  else (values 0 text.toList).map pack

/-- The bytes of a text of `2 * n` digits. -/
def decodeExactly (n : Nat) (text : String) : Except Error (Octets n) :=
  if text.utf8ByteSize % 2 = 0 ∧ text.utf8ByteSize ≠ 2 * n then .error .wrongLength
  else do
    match Octets.ofList? n (← decode text) with
    | some bytes => .ok bytes
    | none => .error .wrongLength

end SlotConsensus.Hex
