import DiceNotation.Text.Digit

/-!
# Numerals

Whole numbers written in decimal digits of any script, mixed as one likes. A numeral of more than
`maxDigits` digits, leading zeros included, is refused instead of read.
-/

namespace DiceNotation.Text

/-- The most digits a numeral may have. -/
def maxDigits : Nat := 4300

/-- A numeral was refused for its number of digits. -/
structure OverlongNumeral where
  digits : Nat
deriving DecidableEq, Repr

/-- What is said of an overlong numeral. -/
def OverlongNumeral.message (e : OverlongNumeral) : String :=
  s!"Exceeds the limit ({maxDigits} digits) for integer string conversion: value has {e.digits} digits; " ++
    "use sys.set_int_max_str_digits() to increase the limit"

/-- The number that a row of digits stands for. -/
def digitsValue (digits : List Char) : Nat :=
  digits.foldl (fun value c => 10 * value + (digitValue? c).getD 0) 0

/-- Reads a numeral of at most `maxDigits` digits. -/
def readNumeral (digits : List Char) : Except OverlongNumeral Nat :=
  if maxDigits < digits.length then .error ⟨digits.length⟩ else .ok (digitsValue digits)

/-- Whether a number has more decimal digits than can be written. -/
def isOverlong (n : Int) : Bool := decide (Nat.pow 10 maxDigits ≤ n.natAbs)

/-- What is said where a number with too many digits would have to be written. -/
def unwritableMessage : String :=
  s!"Exceeds the limit ({maxDigits} digits) for integer string conversion; " ++
    "use sys.set_int_max_str_digits() to increase the limit"

end DiceNotation.Text
