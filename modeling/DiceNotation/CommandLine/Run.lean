import DiceNotation.Breakdown
import DiceNotation.CommandLine.Command
import DiceNotation.CommandLine.Console
import DiceNotation.Compiler
import DiceNotation.Limits.Loading
import DiceNotation.Roll.Error
import DiceNotation.Source.Twister

/-!
# Running commands

Commands run one after the other in one process, which remembers the compiler of the project and the
shared generator. The project's compiler is made by the first command that loads the project's limits
without an error, and is used from then on by every command that names no settings document. A command
that names one has a compiler of its own.

Values of settings are read by a validator, and what a command prints is shown by a console. Every command notes
what it does as the first one does: what a verbose command leaves behind of the way in which notes are shown is
left out.
-/

namespace DiceNotation.CommandLine

/-- The compiler of the project: the standard one, or one under limits of its own. -/
inductive Project where
  | standard
  | own (compiler : Compiler)

/-- What commands leave for later ones. -/
structure Desk where
  standard : Compiler := { owner := 0 }
  project : Option Project := none
  owners : Nat := 1
  generator : Twister := Twister.ofSeed 0

/-- A settings document: its path and what is there. -/
structure Document where
  path : String
  file : File

/-- Why a command ends without a message of its own. -/
inductive Failure where
  | load (error : LoadError)
  | compile (error : CompileError)
  | roll (error : RollError)
  /-- A number has too many digits to be written. -/
  | unwritable

/-- What a command prints, how it ends, and the dice that it has asked for. -/
structure Outcome where
  output : List String := []
  errors : List String := []
  succeeded : Bool := true
  failure : Option Failure := none
  asked : List Int := []

/-- The lines that notes give: all of them with levels where `verbose` is set, else the warnings. -/
def noteLines (verbose : Bool) (notes : List Note) : List String :=
  if verbose then notes.map Note.line else (notes.filter Note.isWarning).map Note.message

/-! ## What is shown -/

/-- What is shown of a roll: its sum, and its parts where they are asked for. -/
def rollSpans (expression : String) (withBreakdown : Bool) (sum : Int) (parts : List Part) : List Span :=
  let shown := if withBreakdown then s!"Roll {expression}: {breakdown parts} =" else s!"Roll {expression}:"
  [{ text := "  " }, { style := some .dim, text := shown }, { text := " " },
    { style := some .bold, text := toString sum }]

/-- The line that shows a roll. -/
def rollLine (expression : String) (withBreakdown : Bool) (parts : List Part) : String :=
  plainText (rollSpans expression withBreakdown (total parts) parts)

/-- What is shown of an error. -/
def errorSpans (message : String) : List Span :=
  [{ style := some .boldRed, text := "Error:" }, { text := " " ++ message }]

/-- The kind of a term as `check` names it. -/
def kindName : Term → String
  | .constant _ => "constant"
  | .pool _ => "dice"

/-- The table of the chunks of an evaluator. -/
def chunkTable (e : Evaluator) : Table where
  title := e.expression
  columns := [{ header := "#", right := true }, { header := "Chunk" }, { header := "Kind" }]
  rows := (e.chunks.zip (e.terms.map fun t => kindName t.value)).mapIdx fun i row =>
    [toString (i + 1), row.1, row.2]

/-! ## Compilers -/

variable [Validator] [Console]

/-- Where a command's compiler stays when the command is over. -/
inductive Place where
  | standard
  | project
  | nowhere

/-- The compiler for a command, and its place. `config` is the settings document that the command names,
`project` that of the project. -/
def chooseCompiler (desk : Desk) (config : Option Document) (project : Document) :
    Except LoadError (Compiler × Place) × Desk × List Note :=
  match config, desk.project with
  | some document, _ =>
    match loadLimits document.path document.file with
    | (.error e, notes) => (.error e, desk, notes)
    | (.ok limits, notes) =>
      (.ok ({ owner := desk.owners, limits := limits }, .nowhere),
        { desk with owners := desk.owners + 1 }, notes)
  | none, some .standard => (.ok (desk.standard, .standard), desk, [])
  | none, some (.own c) => (.ok (c, .project), desk, [])
  | none, none =>
    match loadLimits project.path project.file with
    | (.error e, notes) => (.error e, desk, notes)
    | (.ok limits, notes) =>
      if limits = Limits.standard then
        (.ok (desk.standard, .standard), { desk with project := some .standard }, notes)
      else
        let c : Compiler := { owner := desk.owners, limits := limits }
        (.ok (c, .project), { desk with project := some (.own c), owners := desk.owners + 1 }, notes)

/-- The desk with a compiler put back in its place. -/
def Desk.putBack (desk : Desk) (c : Compiler) : Place → Desk
  | .standard => { desk with standard := c }
  | .project => { desk with project := some (.own c) }
  | .nowhere => desk

/-- The lines that show an error. -/
def errorLines (message : String) : List String := Console.print (markup (errorSpans (Console.escape message)))

/-- The outcome of a command whose limits cannot be loaded. -/
def loadOutcome (verbose : Bool) (notes : List Note) : LoadError → Outcome
  | .limits errors =>
    { output := errorLines (Limits.report errors), errors := noteLines verbose notes, succeeded := false }
  | e => { errors := noteLines verbose notes, succeeded := false, failure := some (.load e) }

/-- The outcome of a command whose expression cannot be compiled. -/
def compileOutcome (verbose : Bool) (notes : List Note) (e : CompileError) : Outcome :=
  if e.isRefusal then
    { output := errorLines e.message, errors := noteLines verbose notes, succeeded := false }
  else { errors := noteLines verbose notes, succeeded := false, failure := some (.compile e) }

/-- Compiles the expression of a command. -/
def compileFor (desk : Desk) (verbose : Bool) (config : Option Document) (project : Document)
    (expression : String) : Except Outcome Evaluator × Desk × List Note :=
  match chooseCompiler desk config project with
  | (.error e, desk, notes) => (.error (loadOutcome verbose notes e), desk, notes)
  | (.ok (c, place), desk, loaded) =>
    match c.compile (.text expression) with
    | (.error e, c, notes) =>
      (.error (compileOutcome verbose (loaded ++ notes) e), desk.putBack c place, loaded ++ notes)
    | (.ok made, c, notes) => (.ok made.value, desk.putBack c place, loaded ++ notes)

/-! ## Commands -/

/-- Rolls again and again on one source and prints each roll, up to the first that stops. The result is
the outcome and the state of the source. -/
def rollLines (e : Evaluator) (withBreakdown verbose : Bool) :
    Nat → Twister → Outcome × Twister
  | 0, g => ({}, g)
  | times + 1, g =>
    let report := e.roll.run Twister.source g
    match report.outcome with
    | .ok parts =>
      let sum := total parts
      if Text.isOverlong sum then
        ({ succeeded := false, failure := some .unwritable, asked := report.calls }, report.state)
      else
        let shown := Console.print (markup (rollSpans e.expression withBreakdown sum parts))
        let (later, g) := rollLines e withBreakdown verbose times report.state
        ({ later with output := shown ++ later.output, asked := report.calls ++ later.asked }, g)
    | .error error =>
      let stopped : Outcome :=
        { errors := noteLines verbose error.notes, succeeded := false, asked := report.calls }
      match error with
      | .limitExceeded _ _ _ _ => ({ stopped with output := errorLines error.message }, report.state)
      | _ => ({ stopped with failure := some (.roll error) }, report.state)

/-- The outcome with lines printed before on the error stream. -/
def Outcome.afterErrors (errors : List String) (o : Outcome) : Outcome :=
  { o with errors := errors ++ o.errors }

/-- Runs `roll`. A seed gives the command a generator of its own. -/
def runRoll (desk : Desk) (config : Option Document) (project : Document) (command : RollCommand) :
    Outcome × Desk :=
  match compileFor desk command.verbose config project command.expression with
  | (.error outcome, desk, _) => (outcome, desk)
  | (.ok e, desk, notes) =>
    let printed := noteLines command.verbose notes
    match command.seed with
    | some seed =>
      let (outcome, _) :=
        rollLines e command.breakdown command.verbose command.times (Twister.ofSeed seed)
      (outcome.afterErrors printed, desk)
    | none =>
      let (outcome, g) :=
        rollLines e command.breakdown command.verbose command.times desk.generator
      (outcome.afterErrors printed, { desk with generator := g })

/-- Runs `check`. -/
def runCheck (desk : Desk) (config : Option Document) (project : Document) (command : CheckCommand) :
    Outcome × Desk :=
  match compileFor desk false config project command.expression with
  | (.error outcome, desk, _) => (outcome, desk)
  | (.ok e, desk, notes) =>
    ({ output := Console.printTable (chunkTable e), errors := noteLines false notes }, desk)

/-- Runs a command. -/
def run (desk : Desk) (config : Option Document) (project : Document) : Command → Outcome × Desk
  | .roll command => runRoll desk config project command
  | .check command => runCheck desk config project command
  | .help => ({}, desk)

end DiceNotation.CommandLine
