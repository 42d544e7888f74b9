import DiceNotation.Limits
import DiceNotation.Settings.Validator

/-!
# Reading limits from settings

A limit is a whole number of at least one. Every limit that cannot be read is reported, in the order of the
limits; a limit that is not given has its standard value.
-/

namespace DiceNotation

/-- The rule for a limit. -/
def LimitField.rule (field : LimitField) : NumberRule where
  key := field.key
  standard := Limits.standard.get field
  least := 1

/-- The limits with the numbers under their keys. -/
def Limits.ofNumbers (number : String → Int) : Limits where
  maxLength := (number LimitField.maxLength.key).toNat
  maxChunks := (number LimitField.maxChunks.key).toNat
  maxDice := (number LimitField.maxDice.key).toNat
  maxFaces := (number LimitField.maxFaces.key).toNat

/-- Reads limits from the entries of a settings table. -/
def Limits.ofEntries [Validator] (entries : List (String × Value)) : Except (List EntryError) Limits :=
  (Validator.read (LimitField.all.map LimitField.rule) entries).map Limits.ofNumbers

/-- The report on limits that cannot be read. -/
def Limits.report [Validator] (errors : List EntryError) : String := Validator.report "Limits" errors

end DiceNotation
