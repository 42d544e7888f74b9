import DiceNotation.CommandLine.Options

/-!
# Commands

There are two commands: `roll` rolls an expression and prints the totals, `check` lists its chunks. Both
take one expression. How the numbers that are given for options are read is left open.
-/

namespace DiceNotation.CommandLine

/-- What to roll, and how. -/
structure RollCommand where
  expression : String
  times : Nat := 1
  breakdown : Bool := false
  seed : Option Int := none
  config : Option String := none
  verbose : Bool := false
deriving DecidableEq, Repr

/-- What to check. -/
structure CheckCommand where
  expression : String
  config : Option String := none
deriving DecidableEq, Repr

/-- A command. -/
inductive Command where
  | roll (command : RollCommand)
  | check (command : CheckCommand)
  | help
deriving DecidableEq, Repr

/-- The path of the settings document that a command names. -/
def Command.config : Command → Option String
  | roll command => command.config
  | check command => command.config
  | help => none

/-- The option that asks for help. -/
def helpOption : OptionSpec := { name := "help" }

/-- The option that names a settings document. -/
def configOption : OptionSpec := { name := "config", letter := some 'c', takesValue := true }

/-- The options of `roll`. -/
def rollOptions : List OptionSpec := [
  { name := "times", letter := some 'n', takesValue := true },
  { name := "breakdown", letter := some 'b' },
  { name := "seed", takesValue := true },
  configOption,
  { name := "verbose", letter := some 'v' },
  helpOption]

/-- The options of `check`. -/
def checkOptions : List OptionSpec := [configOption, helpOption]

/-- The whole number given for an option, `read` being how a text is read as one. -/
def wholeValue? (read : String → Option Int) (a : Arguments) (name : String) :
    Except UsageError (Option Int) :=
  match a.value? name with
  | none => .ok none
  | some text =>
    match read text with
    | some n => .ok (some n)
    | none => .error (.badValue name text)

/-- The path given for the settings document. No path holds a zero character. -/
def configValue? (a : Arguments) : Except UsageError (Option String) :=
  match a.value? configOption.name with
  | none => .ok none
  | some path =>
    if path.toList.contains '\x00' then .error (.badValue configOption.name path)
    else .ok (some path)

/-- The one positional argument. -/
def onlyArgument (a : Arguments) : Except UsageError String :=
  match a.positional with
  | [] => .error .missingArgument
  | [expression] => .ok expression
  | _ :: extra :: _ => .error (.extraArgument extra)

/-- Reads the arguments of `roll`. -/
def readRoll (read : String → Option Int) (args : List String) : Except UsageError Command := do
  let a ← readArguments rollOptions args
  if a.has helpOption.name then return .help
  let expression ← onlyArgument a
  let times := (← wholeValue? read a "times").getD 1
  if times < 1 then throw (.badValue "times" (toString times))
  let seed ← wholeValue? read a "seed"
  let config ← configValue? a
  return .roll {
    expression := expression
    times := times.toNat
    breakdown := a.has "breakdown"
    seed := seed
    config := config
    verbose := a.has "verbose" }

/-- Reads the arguments of `check`. -/
def readCheck (args : List String) : Except UsageError Command := do
  let a ← readArguments checkOptions args
  if a.has helpOption.name then return .help
  let expression ← onlyArgument a
  let config ← configValue? a
  return .check { expression := expression, config := config }

/-- Reads a command by its name. -/
def readNamed (read : String → Option Int) : List String → Except UsageError Command
  | [] => .error .noCommand
  | "roll" :: args => readRoll read args
  | "check" :: args => readCheck args
  | name :: _ => .error (.unknownCommand name)

/-- Reads a command. Before its name two hyphens may stand alone, or help may be asked for. -/
def readCommand (read : String → Option Int) : List String → Except UsageError Command
  | "--" :: args => readNamed read args
  | "--help" :: _ => .ok .help
  | args => readNamed read args

end DiceNotation.CommandLine
