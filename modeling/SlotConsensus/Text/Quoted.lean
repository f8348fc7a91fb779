import SlotConsensus.Text.Hidden

/-! Characters and texts in quotation marks, as messages show them: the quotation mark, the
backslash and the usual controls are escaped by a backslash, and hidden characters are shown by
number. -/

namespace SlotConsensus.Text

/-- The character as it stands between two copies of the quotation mark `mark`. -/
def escape (mark c : Char) : List Char :=
  if c = '\x00' then ['\\', '0']
  else if c = '\t' then ['\\', 't']
  else if c = '\n' then ['\\', 'n']
  else if c = '\r' then ['\\', 'r']
  else if c = '\\' ∨ c = mark then ['\\', c]
  else if isHidden c then ['\\', 'u', '\x7b'] ++ Nat.toDigits 16 c.toNat ++ ['\x7d']
  else [c]

/-- The text between two copies of the quotation mark `mark`. -/
def quoted (mark : Char) (text : String) : String :=
  String.ofList (mark :: text.toList.flatMap (escape mark) ++ [mark])

end SlotConsensus.Text
