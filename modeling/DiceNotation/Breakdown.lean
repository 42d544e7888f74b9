import DiceNotation.Term

/-!
# Breakdowns

The parts of a roll as one line of text: the dice of a pool in brackets, a constant as its number, each
part after the first with a sign.
-/

namespace DiceNotation

/-- A part of a breakdown. The first part has no plus in front. -/
def Part.text (first : Bool) : Part → String
  | .scalar value => if 0 ≤ value && !first then "+" ++ toString value else toString value
  | .dice values =>
    let group := "[" ++ ", ".intercalate (values.map toString) ++ "]"
    if first then group else "+" ++ group

/-- The texts of parts, of which the first one is the first. -/
def partTexts : List Part → List String
  | [] => []
  | part :: parts => part.text true :: parts.map (Part.text false)

/-- The breakdown of a roll. -/
def breakdown (parts : List Part) : String := " ".intercalate (partTexts parts)

end DiceNotation
