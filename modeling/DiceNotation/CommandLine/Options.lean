/-!
# Options of a command line

Arguments are options or positional, in any order. A long option starts with two hyphens and may hold
its value after an equals sign. Short options are single letters after one hyphen; several of them may
stand together, and what follows a letter that takes a value is its value. Otherwise the value is the
next argument, whatever it looks like. After two hyphens that stand alone all arguments are positional.
-/

namespace DiceNotation.CommandLine

/-- An option: its long name without hyphens, its letter if it has one, and whether it takes a value. -/
structure OptionSpec where
  name : String
  letter : Option Char := none
  takesValue : Bool := false
deriving DecidableEq, Repr

/-- Why arguments cannot be read. -/
inductive UsageError where
  | unknownOption (written : String)
  | missingValue (name : String)
  | unexpectedValue (name : String)
  | badValue (name : String) (value : String)
  | missingArgument
  | extraArgument (argument : String)
  | unknownCommand (name : String)
  | noCommand
deriving DecidableEq, Repr

/-- Arguments that were read: options with their values, in order, and the positional ones. -/
structure Arguments where
  options : List (String × Option String) := []
  positional : List String := []
deriving DecidableEq, Repr

namespace Arguments

/-- The last value given for an option. -/
def value? (a : Arguments) (name : String) : Option String := (a.options.reverse.lookup name).join

/-- Whether an option is given. -/
def has (a : Arguments) (name : String) : Bool := a.options.any (·.1 == name)

end Arguments

/-- The short options in a group of letters, and the option at its end that still needs a value. -/
def readLetters (specs : List OptionSpec) :
    List Char → Except UsageError (List (String × Option String) × Option String)
  | [] => .ok ([], none)
  | c :: rest =>
    match specs.find? (·.letter == some c) with
    | none => .error (.unknownOption (String.ofList ['-', c]))
    | some spec =>
      if spec.takesValue then
        if rest.isEmpty then .ok ([], some spec.name)
        else .ok ([(spec.name, some (String.ofList rest))], none)
      else
        (readLetters specs rest).map fun (options, open?) => ((spec.name, none) :: options, open?)

/-- A long option without its hyphens, and the option that still needs a value. -/
def readLong (specs : List OptionSpec) (text : List Char) :
    Except UsageError (List (String × Option String) × Option String) :=
  let name := String.ofList (text.takeWhile (· != '='))
  match specs.find? (·.name == name), text.dropWhile (· != '=') with
  | none, _ => .error (.unknownOption ("--" ++ name))
  | some spec, [] => .ok (if spec.takesValue then ([], some name) else ([(name, none)], none))
  | some spec, _ :: value =>
    if spec.takesValue then .ok ([(name, some (String.ofList value))], none)
    else .error (.unexpectedValue name)

/-- Puts options and positional arguments in front of those read later. -/
def Arguments.after (options : List (String × Option String)) (positional : List String)
    (a : Arguments) : Arguments :=
  ⟨options ++ a.options, positional ++ a.positional⟩

/-- Reads arguments. -/
def readArguments (specs : List OptionSpec) : List String → Except UsageError Arguments
  | [] => .ok {}
  | arg :: rest =>
    let reading : Option (Except UsageError (List (String × Option String) × Option String)) :=
      match arg.toList with
      | '-' :: '-' :: c :: text => some (readLong specs (c :: text))
      | '-' :: c :: text => if c = '-' then none else some (readLetters specs (c :: text))
      | _ => none
    if arg = "--" then .ok { positional := rest }
    else
      match reading with
      | none => (readArguments specs rest).map (Arguments.after [] [arg])
      | some (.error e) => .error e
      | some (.ok (options, none)) => (readArguments specs rest).map (Arguments.after options [])
      | some (.ok (options, some name)) =>
        match rest with
        | [] => .error (.missingValue name)
        | value :: rest =>
          (readArguments specs rest).map (Arguments.after (options ++ [(name, some value)]) [])

end DiceNotation.CommandLine
