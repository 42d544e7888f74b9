import DiceNotation.Text.Numeral

/-!
# Reading documents: results and white space

A reader takes the characters before it and gives what it read and the characters left, or the reason
why there is nothing to read. White space in a line is spaces and tabs.
-/

namespace DiceNotation.Toml

/-- Why a document cannot be read. -/
inductive Fault where
  | malformed
  | overlong (numeral : Text.OverlongNumeral)
deriving DecidableEq, Repr

/-- The result of a reader: what was read, and what is left. -/
abbrev Reading (α : Type) := Except Fault (α × List Char)

/-- Whether a character is a control character that no comment and no text on one line may hold. -/
def isControl (c : Char) : Bool := (c.toNat < 0x20 && c != '\t') || c == '\x7f'

/-- Whether a character separates words on a line. -/
def isSpace (c : Char) : Bool := c == ' ' || c == '\t'

/-- The characters after the white space in front. -/
def skipSpace (input : List Char) : List Char := input.dropWhile isSpace

/-- The characters after a comment, if one stands in front; they start at the end of its line. -/
def skipComment : List Char → Except Fault (List Char)
  | '#' :: rest =>
    if (rest.takeWhile (· != '\n')).any isControl then .error .malformed
    else .ok (rest.dropWhile (· != '\n'))
  | input => .ok input

/-- The characters after all white space, line ends and comments in front. `inComment` tells whether the
characters continue a comment. -/
def skipFiller (inComment : Bool) : List Char → Except Fault (List Char)
  | [] => .ok []
  | c :: rest =>
    if inComment then
      if c == '\n' then skipFiller false rest
      else if isControl c then .error .malformed
      else skipFiller true rest
    else if c == '\n' || isSpace c then skipFiller false rest
    else if c == '#' then skipFiller true rest
    else .ok (c :: rest)

/-- Whether the input starts with a word, and what comes after it. -/
def strip? : List Char → List Char → Option (List Char)
  | [], input => some input
  | w :: word, c :: rest => if w = c then strip? word rest else none
  | _ :: _, [] => none

/-- Whether a character is one of the ten ordinary decimal digits. -/
def isDecimal (c : Char) : Bool := '0' ≤ c && c ≤ '9'

/-- The value of a hexadecimal digit. -/
def hexValue? (c : Char) : Option Nat :=
  if isDecimal c then some (c.toNat - '0'.toNat)
  else if 'a' ≤ c && c ≤ 'f' then some (c.toNat - 'a'.toNat + 10)
  else if 'A' ≤ c && c ≤ 'F' then some (c.toNat - 'A'.toNat + 10)
  else none

end DiceNotation.Toml
