/-! How JSON texts are laid out: on one line without blanks, or with each item on a line of its own
and two spaces deeper than the bracket around it. -/

namespace SlotConsensus.Json

inductive Layout
  | compact
  | indented

namespace Layout

/-- What starts an item at the given depth. -/
def lineBreak : Layout → Nat → List Char
  | compact, _ => []
  | indented, depth => '\n' :: List.replicate (2 * depth) ' '

/-- What stands between a key and its value. -/
def colon : Layout → List Char
  | compact => [':']
  | indented => [':', ' ']

/-- Each item on its line, after a comma if it is not the first one. -/
def items (l : Layout) (depth : Nat) : List (List Char) → List Char
  | [] => []
  | [item] => l.lineBreak depth ++ item
  | item :: rest => l.lineBreak depth ++ item ++ ',' :: l.items depth rest

/-- The items, which are one deeper than `depth`, between brackets.  Brackets without items have
nothing between them. -/
def enclose (l : Layout) (depth : Nat) (opening closing : Char) : List (List Char) → List Char
  | [] => [opening, closing]
  | rows => opening :: l.items (depth + 1) rows ++ l.lineBreak depth ++ [closing]

end Layout

end SlotConsensus.Json
