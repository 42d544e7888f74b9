import DiceNotation.Settings.Value

/-!
# Validators

Whole numbers are read from the entries of a table by rules: a rule says under which key a number may be
given, which number holds where none is given, and which is the least that may be. To read values is the work
of a validator, which comes from outside. All that uses one works with any.
-/

namespace DiceNotation

/-- The rule for a number that a table may give. -/
structure NumberRule where
  key : String
  standard : Nat
  least : Int

/-- Why a value is refused: a code, and what is said. -/
structure Refusal where
  code : String
  message : String
deriving DecidableEq, Repr

/-- A value that is refused, with its key. -/
structure EntryError where
  key : String
  refusal : Refusal
  given : Value

/-- The value under a key; where the key stands twice, the last one. -/
def valueUnder? (entries : List (String × Value)) (key : String) : Option Value :=
  entries.reverse.lookup key

/-- What reads numbers from tables. -/
class Validator where
  /-- The whole number that a value stands for. -/
  whole : Value → Except Refusal Int
  /-- The refusal of a number below the least one. -/
  below : Int → Refusal
  /-- The number that holds by a rule, if a value is given or not. -/
  check : NumberRule → Option Value → Except Refusal Int
  /-- The numbers that hold by several rules under their keys, or all that is wrong with a table. -/
  read : List NumberRule → List (String × Value) → Except (List EntryError) (String → Int)
  /-- The report on what is wrong with a table for something. -/
  report : String → List EntryError → String

end DiceNotation
