/-!
# Classes of characters as ranges of code points

A class is a list of closed ranges, in ascending order and without overlap. The tables of this folder
follow version 14 of the character database.
-/

namespace DiceNotation.Text

/-- Closed ranges of code points. -/
abbrev CodeRanges := List (Nat × Nat)

/-- Whether a code point lies in one of the ranges. -/
def CodeRanges.covers (ranges : CodeRanges) (code : Nat) : Bool :=
  ranges.any fun range => range.1 ≤ code && code ≤ range.2

end DiceNotation.Text
