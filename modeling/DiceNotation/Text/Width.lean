/-!
# Width of text on a terminal

A character takes one cell, a fullwidth form takes two.
-/

namespace DiceNotation.Text

/-- The number of cells that a character takes. -/
def cellWidth (c : Char) : Nat :=
  if 0xFF01 ≤ c.toNat && c.toNat ≤ 0xFF60 then 2 else 1

/-- The number of cells that a text takes. -/
def textWidth (text : List Char) : Nat :=
  text.foldr (fun c width => cellWidth c + width) 0

end DiceNotation.Text
