import DiceNotation.Compiler
import DiceNotation.Limits.Reading
import DiceNotation.Roll.Error
import DiceNotation.Source.Script

/-!
# Sessions

A session works with several compilers and sources under names. One compiler is there from the start and
serves everything that names none. It has a name as well, but keeps serving when that name goes to
another compiler. The session remembers the evaluators that were compiled, also under names, and which
source rolls without a named one draw from. Objects are numbered in the order in which results show them
for the first time; an object that comes back keeps its number.

Dice come from wells. A source has no dice of its own: it says from which well it draws, and several may
draw from one.
-/

namespace DiceNotation

/-- What a source is made from. Making one on the shared generator seeds that generator. -/
inductive SourcePlan where
  | script (script : Script)
  | shared (seed : Int)

/-- The well of a source that is made, and all the wells then. -/
def SourcePlan.dig (plan : SourcePlan) (wells : List Script) : Nat × List Script :=
  match plan with
  | .script own => (wells.length, wells ++ [own])
  | .shared seed => (0, wells.set 0 (.generator (Twister.ofSeed seed)))

/-- A source of dice: the number of the well that it draws from. The one that is there from the start has no
name. A source that does not count is as none where a roll names it. -/
structure DiceSource where
  name : Option String
  well : Nat
  counts : Bool := true
deriving DecidableEq

/-- The name that the compiler has that is there from the start. -/
def standardName : String := "default"

/-- Where a session compiles: its compilers, the evaluators that it remembers, and the objects that results
have shown. Compilers are numbered, so that one that lost its name to another can still serve. The first is
the one that is there from the start. -/
structure Bench where
  compilers : List Compiler := [{ owner := 0 }]
  compilerNames : List (String × Nat) := [(standardName, 0)]
  evaluators : List (String × Evaluator) := []
  shownEvaluators : List Stamp := []
  shownTerms : List Stamp := []

/-- What a session rolls with. Sources are numbered as compilers are, and so are wells. The first source is
the one that is there from the start, and the first well the generator that is shared by all sources without
a script. -/
structure Dice where
  sources : List DiceSource := [{ name := none, well := 0 }]
  sourceNames : List (String × Nat) := []
  standardSource : Nat := 0
  wells : List Script := [.generator (Twister.ofSeed 0)]

/-- The state of a session. -/
structure Session where
  bench : Bench := {}
  dice : Dice := {}

/-- A step of a session. What becomes the standard source is the source with a name, or again the one that
is there from the start. -/
inductive SessionStep where
  | newCompiler (name : String) (fields : List (String × Value))
  | setLimits (name : String) (fields : List (String × Value))
  | compile (name : Option String) (given : Value) (saveAs : String)
  | compileChunk (name : String) (chunk : String)
  | clear (name : String)
  | addSource (name : String) (plan : SourcePlan) (counts : Bool := true)
  | setStandardSource (name : Option String)
  | roll (evaluator : String) (reduce : Bool) (source : Option String)
  | rollOnce (given : Value) (source : Option String)

/-- What an expression has come to that was rolled once: the expression as it was given, the parts and their
sum. -/
structure RollSummary where
  expression : Value
  parts : List Part
  total : Int

namespace RollSummary

/-- The summary of the parts to which an expression was rolled. -/
def ofParts (expression : Value) (parts : List Part) : RollSummary :=
  { expression := expression, parts := parts, total := DiceNotation.total parts }

/-- Every die of the parts. Constants are left out. -/
def rolls (summary : RollSummary) : List Int := summary.parts.flatMap Part.rolls

end RollSummary

/-- What a step gives. -/
inductive StepResult where
  | nothing
  | limits (limits : Limits)
  | evaluator (program : Program) (number : Nat) (terms : List Nat)
  | term (term : Term) (number : Nat)
  | previousSource (name : Option String)
  | total (value : Int)
  | parts (parts : List Part)
  | summary (summary : RollSummary)

/-- Why a step fails. -/
inductive StepError where
  | limits (errors : List EntryError)
  | compile (error : CompileError)
  | roll (error : RollError)
  | unknownName (name : String)

/-- The answer to a step: its result, what is noted, and the dice that were asked for, with the name of the
source that was asked. -/
structure StepAnswer where
  outcome : Except StepError StepResult
  notes : List Note := []
  source : Option String := none
  asked : List Int := []

/-- The calls that a named source got. -/
def StepAnswer.calls (answer : StepAnswer) : Option (String × List Int) :=
  if answer.asked.isEmpty then none else answer.source.map (·, answer.asked)

/-- A roll that a step has come to: the dice, the source with its number, what is made of the parts, and
what is noted already. -/
structure Throw where
  roll : Roll (List Part)
  number : Nat
  source : DiceSource
  result : List Part → StepResult
  notes : List Note := []

/-- What a step comes to before any dice are rolled. -/
inductive Prepared where
  | answered (answer : StepAnswer)
  | rolling (throw : Throw)

/-- The list with a value under a key, in the place of an older one. -/
def putUnder {α : Type} (entries : List (String × α)) (key : String) (value : α) :
    List (String × α) :=
  (key, value) :: entries.filter (·.1 != key)

/-- An answer that a name is not known. -/
def StepAnswer.unknown (name : String) : StepAnswer := { outcome := .error (.unknownName name) }

namespace Bench

/-- The number of an object among those shown, and the objects shown after it is. -/
def numbered (shown : List Stamp) (stamp : Stamp) : Nat × List Stamp :=
  match shown.findIdx? (· == stamp) with
  | some number => (number, shown)
  | none => (shown.length, shown ++ [stamp])

/-- The numbers of several objects. -/
def allNumbered (shown : List Stamp) : List Stamp → List Nat × List Stamp
  | [] => ([], shown)
  | stamp :: rest =>
    let (number, shown) := numbered shown stamp
    let (numbers, shown) := allNumbered shown rest
    (number :: numbers, shown)

/-- The number of the compiler with a name, and the compiler. -/
def compilerNamed? (b : Bench) (name : String) : Option (Nat × Compiler) :=
  (b.compilerNames.lookup name).bind fun i => (b.compilers[i]?).map (i, ·)

/-- The compiler for a step: the named one, or else the one that is there from the start. -/
def chooseCompiler (b : Bench) : Option String → Option (Nat × Compiler)
  | some name => b.compilerNamed? name
  | none => (b.compilers[0]?).map (0, ·)

/-- The bench with another state of a compiler. -/
def putCompiler (b : Bench) (i : Nat) (c : Compiler) : Bench :=
  { b with compilers := b.compilers.set i c }

/-- Compiles with the compiler of the given number. -/
def compileWith (b : Bench) (i : Nat) (c : Compiler) (given : Value) :
    Except CompileError (Stamped Evaluator) × Bench × List Note :=
  match c.compile given with
  | (outcome, c, notes) => (outcome, b.putCompiler i c, notes)

/-- A new compiler under a name. -/
def addCompiler [Validator] (b : Bench) (name : String) (fields : List (String × Value)) : StepAnswer × Bench :=
  match Limits.ofEntries fields with
  | .error errors => ({ outcome := .error (.limits errors) }, b)
  | .ok limits =>
    ({ outcome := .ok (.limits limits) },
      { b with
        compilers := b.compilers ++ [{ owner := b.compilers.length, limits := limits }]
        compilerNames := putUnder b.compilerNames name b.compilers.length })

/-- New limits for a compiler. -/
def assignLimits [Validator] (b : Bench) (name : String) (fields : List (String × Value)) : StepAnswer × Bench :=
  match Limits.ofEntries fields, b.compilerNamed? name with
  | .error errors, _ => ({ outcome := .error (.limits errors) }, b)
  | .ok _, none => (.unknown name, b)
  | .ok limits, some (i, c) => ({ outcome := .ok (.limits limits) }, b.putCompiler i (c.setLimits limits))

/-- Compiles an expression and remembers the evaluator under a name. -/
def compileAs (b : Bench) (name : Option String) (given : Value) (saveAs : String) : StepAnswer × Bench :=
  match b.chooseCompiler name with
  | none => (.unknown (name.getD standardName), b)
  | some (i, c) =>
    match b.compileWith i c given with
    | (.error e, b, notes) => ({ outcome := .error (.compile e), notes := notes }, b)
    | (.ok made, b, notes) =>
      let (number, shownEvaluators) := numbered b.shownEvaluators made.stamp
      let (terms, shownTerms) := allNumbered b.shownTerms (made.value.terms.map (·.stamp))
      ({ outcome := .ok (.evaluator made.value.program number terms), notes := notes },
        { b with
          evaluators := putUnder b.evaluators saveAs made.value
          shownEvaluators := shownEvaluators
          shownTerms := shownTerms })

/-- Compiles a chunk. -/
def compileChunk (b : Bench) (name chunk : String) : StepAnswer × Bench :=
  match b.compilerNamed? name with
  | none => (.unknown name, b)
  | some (i, c) =>
    match c.compileChunk chunk with
    | (.error e, c) => ({ outcome := .error (.compile e) }, b.putCompiler i c)
    | (.ok made, c) =>
      let (number, shownTerms) := numbered b.shownTerms made.stamp
      ({ outcome := .ok (.term made.value number) }, { b.putCompiler i c with shownTerms := shownTerms })

/-- Empties a compiler. -/
def clear (b : Bench) (name : String) : StepAnswer × Bench :=
  match b.compilerNamed? name with
  | none => (.unknown name, b)
  | some (i, c) => ({ outcome := .ok .nothing }, b.putCompiler i c.clear)

end Bench

namespace Dice

/-- The source with a number, beside its number. -/
def numbered? (d : Dice) (i : Nat) : Option (Nat × DiceSource) := (d.sources[i]?).map (i, ·)

/-- The source for a roll, with its number: the named one if it counts, or else the standard one. -/
def choose (d : Dice) : Option String → Option (Nat × DiceSource)
  | none => d.numbered? d.standardSource
  | some name =>
    match (d.sourceNames.lookup name).bind d.numbered? with
    | none => none
    | some (i, source) => if source.counts then some (i, source) else d.numbered? d.standardSource

/-- A new source under a name. -/
def addSource (d : Dice) (name : String) (plan : SourcePlan) (counts : Bool) : StepAnswer × Dice :=
  let dug := plan.dig d.wells
  ({ outcome := .ok .nothing },
    { d with
      sources := d.sources ++ [⟨some name, dug.1, counts⟩]
      sourceNames := putUnder d.sourceNames name d.sources.length
      wells := dug.2 })

/-- The number of the source that a name means when the standard source is set. -/
def installed? (d : Dice) : Option String → Option Nat
  | some name => d.sourceNames.lookup name
  | none => some 0

/-- Sets the standard source. -/
def install (d : Dice) (name : Option String) : StepAnswer × Dice :=
  match d.installed? name with
  | none => (.unknown (name.getD standardName), d)
  | some i =>
    let previous := (d.sources[d.standardSource]?).bind (·.name)
    ({ outcome := .ok (.previousSource previous) }, { d with standardSource := i })

/-- What is in a well; one that is not there is dry. -/
def level (d : Dice) (well : Nat) : Script := d.wells.getD well (.sequence [])

/-- Rolls the dice that a step has come to. The calls of a step are counted from its start. -/
def roll (d : Dice) (t : Throw) : StepAnswer × Dice :=
  let report := t.roll.run Scripted.source ⟨d.level t.source.well, 0⟩
  let (outcome, notes) : Except StepError StepResult × List Note :=
    match report.outcome with
    | .error e => (.error (.roll e), t.notes ++ e.notes)
    | .ok parts => (.ok (t.result parts), t.notes)
  ({ outcome := outcome, notes := notes, source := t.source.name, asked := report.calls },
    { d with wells := d.wells.set t.source.well report.state.script })

end Dice

namespace Session

/-- The number of the compiler with a name, and the compiler. -/
def compilerNamed? (s : Session) (name : String) : Option (Nat × Compiler) := s.bench.compilerNamed? name

/-- A step at the bench, which needs no dice. -/
def atBench (s : Session) (work : Bench → StepAnswer × Bench) : Prepared × Session :=
  match work s.bench with
  | (answer, bench) => (.answered answer, { s with bench := bench })

/-- A step that has to do with sources, but does not roll. -/
def withDice (s : Session) (work : Dice → StepAnswer × Dice) : Prepared × Session :=
  match work s.dice with
  | (answer, dice) => (.answered answer, { s with dice := dice })

/-- Finds an evaluator and the source to roll it on. -/
def prepareRoll (s : Session) (evaluator : String) (reduce : Bool) (name : Option String) : Prepared :=
  match s.bench.evaluators.lookup evaluator, s.dice.choose name with
  | none, _ => .answered (.unknown evaluator)
  | some _, none => .answered (.unknown (name.getD standardName))
  | some e, some (i, source) =>
    let result (parts : List Part) : StepResult := if reduce then .total (total parts) else .parts parts
    .rolling { roll := e.roll, number := i, source := source, result := result }

/-- Finds a source, and compiles an expression to roll it there. -/
def prepareRollOnce (s : Session) (given : Value) (name : Option String) : Prepared × Session :=
  match s.dice.choose name, s.bench.chooseCompiler none with
  | none, _ => (.answered (.unknown (name.getD standardName)), s)
  | some _, none => (.answered (.unknown standardName), s)
  | some (i, source), some (j, c) =>
    match s.bench.compileWith j c given with
    | (.error e, bench, notes) =>
      (.answered { outcome := .error (.compile e), notes := notes }, { s with bench := bench })
    | (.ok made, bench, notes) =>
      (.rolling
          { roll := made.value.roll, number := i, source := source,
            result := fun parts => .summary (.ofParts given parts), notes := notes },
        { s with bench := bench })

/-- What a step does before any dice are rolled. -/
def prepare [Validator] (s : Session) : SessionStep → Prepared × Session
  | .newCompiler name fields => s.atBench (·.addCompiler name fields)
  | .setLimits name fields => s.atBench (·.assignLimits name fields)
  | .compile name given saveAs => s.atBench (·.compileAs name given saveAs)
  | .compileChunk name chunk => s.atBench (·.compileChunk name chunk)
  | .clear name => s.atBench (·.clear name)
  | .addSource name plan counts => s.withDice (·.addSource name plan counts)
  | .setStandardSource name => s.withDice (·.install name)
  | .roll evaluator reduce name => (s.prepareRoll evaluator reduce name, s)
  | .rollOnce given name => s.prepareRollOnce given name

/-- Rolls the dice that a step has come to. -/
def roll (s : Session) (t : Throw) : StepAnswer × Session :=
  match s.dice.roll t with
  | (answer, dice) => (answer, { s with dice := dice })

/-- Takes a step. -/
def perform [Validator] (s : Session) (step : SessionStep) : StepAnswer × Session :=
  match s.prepare step with
  | (.answered answer, s) => (answer, s)
  | (.rolling t, s) => s.roll t

/-- The keys of a shelf in ascending order. -/
def sortedKeys {α : Type} (shelf : Shelf α) : List String :=
  shelf.keys.mergeSort fun a b => decide (¬b < a)

end Session

end DiceNotation
