import DiceNotation.Text.Blank
import DiceNotation.Text.Lowercase

/-!
# Expressions

An expression is tidied, which removes all blanks and puts it in lowercase, and then cut into chunks. A
cut goes before every sign, except at the start and where the sign begins the argument of a modifier
that takes signed ones: straight after `r`, `t` or `!`.
-/

namespace DiceNotation.Expression

/-- The characters of an expression without blanks, in lowercase. -/
def tidyChars (text : List Char) : List Char :=
  Text.lowerFrom false (text.filter fun c => !Text.isBlank c)

/-- An expression without blanks, in lowercase. -/
def tidy (text : String) : String := String.ofList (tidyChars text.toList)

/-- Whether a character is a sign. -/
def isSign (c : Char) : Bool := c == '+' || c == '-'

/-- Whether a sign after this character begins the argument of a modifier. -/
def takesSign (c : Char) : Bool := c == 'r' || c == 't' || c == '!'

/-- Whether an expression is cut between two neighbours. -/
def cutsBetween (before after : Char) : Bool := isSign after && !takesSign before

/-- The characters of the chunks of an expression. The empty expression is one empty chunk. -/
def cutChars (text : List Char) : List (List Char) :=
  if text.isEmpty then [[]] else text.splitBy fun before after => !cutsBetween before after

/-- The chunks of an expression. -/
def cut (text : String) : List String := (cutChars text.toList).map String.ofList

end DiceNotation.Expression
