import DiceNotation.Text.CodeRange

/-!
# Blank characters

The characters that an expression may be spaced out with: the white space of the character database
and the four information separators.
-/

namespace DiceNotation.Text

/-- Every blank character. -/
def blankRanges : CodeRanges := [
  (0x9, 0xD), (0x1C, 0x20), (0x85, 0x85), (0xA0, 0xA0), (0x1680, 0x1680),
  (0x2000, 0x200A), (0x2028, 0x2029), (0x202F, 0x202F), (0x205F, 0x205F), (0x3000, 0x3000)]

/-- Whether a character is blank. -/
def isBlank (c : Char) : Bool := blankRanges.covers c.toNat

end DiceNotation.Text
