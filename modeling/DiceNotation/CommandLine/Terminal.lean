import DiceNotation.CommandLine.Markup
import DiceNotation.CommandLine.Table

/-!
# The terminal

A console without colours and without an end to its lines.
-/

namespace DiceNotation.CommandLine

/-- The terminal. -/
@[reducible]
def Console.terminal : Console where
  escape text := String.ofList (escapeStyles text.toList)
  print text := [String.ofList (showMarkup text.toList)]
  printTable := tableLines
  Fits _ := True
  FitsTable _ := True

end DiceNotation.CommandLine
