import DiceNotation.CommandLine.Path
import DiceNotation.CommandLine.Run
import DiceNotation.CommandLine.Terminal
import DiceNotation.Settings.Lenient

/-!
# The program

Reads the settings documents from the disk, runs one command and prints what it gives. The settings of
the project are in `config.toml` in the working directory. The program reads settings leniently, as it does the
numbers that are given for options, and prints on a terminal.
-/

namespace DiceNotation.CommandLine

/-- What is said of arguments that cannot be read. -/
def UsageError.message : UsageError → String
  | unknownOption written => s!"No such option: {written}"
  | missingValue name => s!"Option '--{name}' requires an argument."
  | unexpectedValue name => s!"Option '--{name}' does not take a value."
  | badValue name value => s!"Invalid value for '--{name}': {value}"
  | missingArgument => "Missing argument 'EXPRESSION'."
  | extraArgument argument => s!"Got unexpected extra argument ({argument})"
  | unknownCommand name => s!"No such command '{name}'."
  | noCommand => "Missing command."

/-- How the commands are called. -/
def helpText : String :=
  "Roll dice expressions such as 4d6kh3+2\n\n" ++
  "  roll EXPRESSION [--times N] [--breakdown] [--seed N] [--config PATH] [--verbose]\n" ++
  "  check EXPRESSION [--config PATH]"

/-- What is said of a command that ends without a message of its own. -/
def Failure.message : Failure → String
  | load .directory => "the settings are a directory"
  | load .unreachable => "the settings cannot be reached"
  | load .malformed => "the settings cannot be read"
  | load (.overlongNumeral numeral) => numeral.message
  | load .notATable => "the settings under dice are no table"
  | load (.limits errors) => (Validator.lenient fun _ => []).report "Limits" errors
  | compile e => e.message
  | roll e => e.message
  | unwritable => "a number has too many digits to be written"

/-- The document at a path. -/
def readDocument (path : String) : IO Document := do
  let file ←
    try
      let bytes ← IO.FS.readBinFile path
      match String.fromUTF8? bytes with
      | some text => pure (.document text)
      | none => pure (.document "\x00")
    catch
      | .noFileOrDirectory _ _ _ => pure .missing
      | .inappropriateType _ _ _ => pure .directory
      | _ => pure .unreachable
  return ⟨tidyPath path, file⟩

/-- Runs the program on its arguments and gives its exit code. -/
def program (args : List String) : IO UInt32 := do
  match readCommand (fun text => (Text.readWhole text).toOption) args with
  | .error e =>
    IO.eprintln e.message
    return 2
  | .ok .help =>
    IO.println helpText
    return 0
  | .ok command =>
    let config ← command.config.mapM readDocument
    let project ← readDocument "config.toml"
    let seed ← IO.rand 0 0xFFFFFFFF
    let desk : Desk := { generator := Twister.ofSeed seed }
    let (outcome, _) := @run (.lenient fun _ => []) .terminal desk config project command
    for line in outcome.errors do
      IO.eprintln line
    for line in outcome.output do
      IO.println line
    if let some failure := outcome.failure then
      IO.eprintln failure.message
    return if outcome.succeeded then 0 else 1

end DiceNotation.CommandLine

/-- Runs the program. -/
def main (args : List String) : IO UInt32 := DiceNotation.CommandLine.program args
