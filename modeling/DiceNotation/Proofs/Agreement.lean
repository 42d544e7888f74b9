import DiceNotation.Proofs.CommandLine.Repetition
import DiceNotation.Proofs.Session.Interleaving

/-!
# All ways to roll agree

An expression can be compiled and its evaluator be rolled, for the total or for the parts; it can be rolled once
in a session; and it can be rolled by a command. All of these run the terms of one program, so on sources in one
state they come to one report: the same total after the same dice, or the same error after the same dice.

What the compilers keep makes no difference, as they keep nothing but programs. A script on the generator is the
generator itself, so that a command can be compared with a session.
-/

namespace DiceNotation

open Compiler (Reachable)

/-! ## Values -/

/-- The number of a part that is no list of dice. -/
def Part.integer? : Part → Option Int
  | .scalar value => some value
  | .dice _ => none

/-- The values hold those of every part once and in order: those of a part stand together, after as many as the
parts before it have, and there are no others. -/
structure KeepsValues (parts : List Part) (values : List Int) : Prop where
  length : values.length = (parts.map fun part => part.values.length).sum
  placed : ∀ before part after, parts = before ++ part :: after → ∃ front back,
    values = front ++ part.values ++ back ∧ front.length = (before.map fun part => part.values.length).sum

theorem keepsValues_flatten (parts : List Part) : KeepsValues parts (flatten parts) where
  length := List.length_flatMap
  placed := by
    rintro before part after rfl
    refine ⟨flatten before, flatten after, ?_, List.length_flatMap⟩
    rw [flatten, List.flatMap_append, List.flatMap_cons, ← List.append_assoc]
    rfl

/-- A total is the sum of the dice and of the numbers that are no dice. -/
theorem total_eq_rolls_add_integers (parts : List Part) :
    total parts = (parts.flatMap Part.rolls).sum + (parts.filterMap Part.integer?).sum := by
  induction parts with
  | nil => rfl
  | cons part rest ih =>
    rw [total_cons, ih]
    cases part with
    | scalar value =>
      simp only [Part.values, Part.rolls, Part.integer?, List.flatMap_cons, List.filterMap_cons, List.nil_append,
        List.sum_cons, List.sum_nil]
      omega
    | dice values =>
      simp only [Part.values, Part.rolls, Part.integer?, List.flatMap_cons, List.filterMap_cons, List.sum_append]
      omega

/-! ## Sessions -/

/-- The sum of what a roll has come to. -/
def StepResult.sum? : StepResult → Option Int
  | .total value => some value
  | .parts rolled => some (flatten rolled).sum
  | .summary rolled => some rolled.total
  | _ => none

/-- What the answer to a roll comes to: its sum, or the error that has stopped it. -/
def StepAnswer.comesTo? (answer : StepAnswer) : Option (Except RollError Int) :=
  match answer.outcome with
  | .ok result => result.sum?.map .ok
  | .error (.roll e) => some (.error e)
  | .error _ => none

/-- The answer to a roll tells of a report: it comes to the same total, or to the same error, and the same dice
were asked for. -/
structure StepAnswer.Tells {σ : Type} (answer : StepAnswer) (report : Report σ (List Part)) : Prop where
  comesTo : answer.comesTo? = some (report.outcome.map total)
  asked : answer.asked = report.calls

namespace Session

variable {s : Session} {script : Script}

/-- The source with a name, or else the standard source, draws from a well in which there is the script. -/
def Offers (s : Session) (name : Option String) (script : Script) : Prop :=
  ∃ number source, s.dice.choose name = some (number, source) ∧ s.dice.level source.well = script

theorem tells_of_roll {t : Throw} (hlevel : s.dice.level t.source.well = script)
    (hresult : ∀ parts, (t.result parts).sum? = some (total parts)) :
    (s.roll t).1.Tells (t.roll.run Scripted.source ⟨script, 0⟩) := by
  subst hlevel
  refine ⟨?_, rfl⟩
  unfold roll Dice.roll StepAnswer.comesTo?
  dsimp only
  cases (t.roll.run Scripted.source ⟨s.dice.level t.source.well, 0⟩).outcome with
  | error e => rfl
  | ok parts =>
    dsimp only
    rw [hresult]
    rfl

variable [Validator]

/-- An evaluator that is rolled for its total tells of the same as one that is rolled for its parts. -/
theorem tells_of_perform_roll {name : String} {e : Evaluator} (he : s.bench.evaluators.lookup name = some e)
    {source : Option String} (hsource : s.Offers source script) (reduce : Bool) :
    (s.perform (.roll name reduce source)).1.Tells (e.roll.run Scripted.source ⟨script, 0⟩) := by
  obtain ⟨number, drawn, hchoose, hlevel⟩ := hsource
  simp only [perform, prepare, prepareRoll, he, hchoose]
  refine tells_of_roll hlevel fun parts => ?_
  cases reduce <;> rfl

variable {c : Compiler} {given : Value} {made : Stamped Evaluator}

/-- To compile an expression and roll it once tells of a roll of its evaluator. -/
theorem tells_of_perform_rollOnce (hc : s.bench.compilers[0]? = some c) (hmade : (c.compile given).1 = .ok made)
    {source : Option String} (hsource : s.Offers source script) :
    (s.perform (.rollOnce given source)).1.Tells (made.value.roll.run Scripted.source ⟨script, 0⟩) := by
  obtain ⟨number, drawn, hchoose, hlevel⟩ := hsource
  rcases hcompile : c.compile given with ⟨outcome, next, notes⟩
  rw [hcompile] at hmade
  obtain rfl : outcome = .ok made := hmade
  simp only [perform, prepare, prepareRollOnce, hchoose, Bench.chooseCompiler, hc, Option.map_some,
    Bench.compileWith, hcompile]
  exact tells_of_roll hlevel fun _ => rfl

/-- The total of a roll in one step is the sum of its dice and of its numbers that are no dice. -/
theorem summary_of_perform_rollOnce (hc : s.bench.compilers[0]? = some c) (hmade : (c.compile given).1 = .ok made)
    {source : Option String} (hsource : s.Offers source script) {parts : List Part}
    (hparts : (made.value.roll.run Scripted.source ⟨script, 0⟩).outcome = .ok parts) :
    ∃ summary : RollSummary, (s.perform (.rollOnce given source)).1.outcome = .ok (.summary summary) ∧
      summary.expression = given ∧ summary.parts = parts ∧
      summary.total = summary.rolls.sum + (summary.parts.filterMap Part.integer?).sum := by
  obtain ⟨number, drawn, hchoose, hlevel⟩ := hsource
  rcases hcompile : c.compile given with ⟨outcome, next, notes⟩
  rw [hcompile] at hmade
  obtain rfl : outcome = .ok made := hmade
  refine ⟨.ofParts given parts, ?_, rfl, rfl, total_eq_rolls_add_integers parts⟩
  simp only [perform, prepare, prepareRollOnce, hchoose, Bench.chooseCompiler, hc, Option.map_some,
    Bench.compileWith, hcompile, roll, Dice.roll, hlevel, hparts]

/-- To compile leaves the dice as they are. -/
theorem dice_perform_compile (s : Session) (name : Option String) (given : Value) (saveAs : String) :
    (s.perform (.compile name given saveAs)).2.dice = s.dice := rfl

/-- A session remembers what it compiles. -/
theorem lookup_perform_compile (hc : s.bench.compilers[0]? = some c) (hmade : (c.compile given).1 = .ok made)
    (saveAs : String) :
    (s.perform (.compile none given saveAs)).2.bench.evaluators.lookup saveAs = some made.value := by
  rcases hcompile : c.compile given with ⟨outcome, next, notes⟩
  rw [hcompile] at hmade
  obtain rfl : outcome = .ok made := hmade
  simp only [perform, prepare, atBench, Bench.compileAs, Bench.chooseCompiler, hc, Option.map_some,
    Bench.compileWith, hcompile]
  exact List.lookup_cons_self

end Session

/-! ## Commands -/

namespace CommandLine

/-- What a command prints tells of a report: the total, with the parts where they are asked for, or the error. It has
asked for the same dice. -/
structure Outcome.Tells [Console] {σ : Type} (o : Outcome) (expression : String) (withBreakdown : Bool)
    (report : Report σ (List Part)) : Prop where
  failure : o.failure = none
  asked : o.asked = report.calls
  rolled : ∀ parts, report.outcome = .ok parts → o.succeeded = true ∧
    Shows o.output ("  Roll " ++ expression ++ ": " ++ (if withBreakdown then breakdown parts ++ " = " else "") ++
      toString (total parts))
  stopped : ∀ error, report.outcome = .error error → o.succeeded = false ∧
    Shows o.output ("Error: " ++ error.message)

/-- A command that rolls once tells of a run on the generator. -/
theorem tells_of_rollLines [Console] [LawfulConsole] {e : Evaluator} (hfits : e.program.Fits .standard)
    (hplain : e.expression.toList.all isOrdinary = true) (withBreakdown verbose : Bool) (g : Twister) :
    (rollLines e withBreakdown verbose 1 g).1.Tells e.expression withBreakdown (e.roll.run Twister.source g) ∧
      (rollLines e withBreakdown verbose 1 g).2 = (e.roll.run Twister.source g).state := by
  cases h : (e.roll.run Twister.source g).outcome with
  | ok parts =>
    have hwritable := hfits.isOverlong_total Limits.standard_mostOfChunk_lt Twister.source_showsFaces h
    rw [rollLines_of_ok h hwritable]
    refine ⟨⟨rfl, List.append_nil _, fun others hothers => ?_, fun error herror => ?_⟩, rfl⟩
    · rw [h] at hothers
      cases hothers
      refine ⟨rfl, ?_⟩
      dsimp only [rollLines]
      rw [List.append_nil]
      exact shows_roll hplain withBreakdown parts
    · rw [h] at herror
      cases herror
  | error error =>
    obtain ⟨face, size, pending, rfl⟩ := Compiler.limitExceeded_of_fits hfits Twister.source_answers h
    rw [rollLines_of_error h]
    refine ⟨⟨rfl, rfl, fun others hothers => ?_, fun error herror => ?_⟩, rfl⟩
    · rw [h] at hothers
      cases hothers
    · rw [h] at herror
      cases herror
      exact ⟨rfl, shows_errorLines (isPlain_message_limitExceeded _ _ _ _)⟩

end CommandLine

/-! ## All of them -/

open CommandLine

/-- All ways to roll an expression, on sources in the state that a script gives, tell of one report. -/
structure AllTell [Validator] [Console] (given : Value) (p : Program) (script : Script)
    (report : Report Scripted (List Part)) : Prop where
  /-- The compiler that is there from the start compiles the expression to an evaluator for the program, whatever
  it keeps. -/
  compiled : ∀ (s : Session) (c : Compiler) (saveAs : String), s.bench.compilers[0]? = some c →
    Reachable .standard c →
    let compiled := (s.perform (.compile none given saveAs)).2
    compiled.dice = s.dice ∧ ∃ e, e.program = p ∧ compiled.bench.evaluators.lookup saveAs = some e
  /-- An evaluator for the program is rolled for its total or for its parts. -/
  evaluator : ∀ (s : Session) (name : String) (e : Evaluator) (reduce : Bool) (source : Option String),
    s.bench.evaluators.lookup name = some e → e.program = p → s.Offers source script →
    (s.perform (.roll name reduce source)).1.Tells report
  /-- The expression is compiled and rolled in one step, whatever the compiler keeps. -/
  once : ∀ (s : Session) (c : Compiler) (source : Option String), s.bench.compilers[0]? = some c →
    Reachable .standard c → s.Offers source script → (s.perform (.rollOnce given source)).1.Tells report
  /-- What such a roll has come to is summed up: its total is the sum of its dice and of its numbers that are no
  dice. -/
  summed : ∀ (s : Session) (c : Compiler) (source : Option String), s.bench.compilers[0]? = some c →
    Reachable .standard c → s.Offers source script → ∀ parts, report.outcome = .ok parts →
    ∃ summary : RollSummary, (s.perform (.rollOnce given source)).1.outcome = .ok (.summary summary) ∧
      summary.expression = given ∧ summary.parts = parts ∧
      summary.total = summary.rolls.sum + (summary.parts.filterMap Part.integer?).sum
  /-- The expression is rolled by a command, after any others, under the standard limits. The generator is seeded
  for the command, or is the shared one, which is then left in the same state. -/
  command : ∀ (start : CommandLine.Desk) (earlier : List Invocation) (config : Option Document) (project : Document)
    (command : RollCommand) (g : Twister), Reachable .standard start.standard → start.project = none →
    limitsFor (projectLimits? earlier) config project = .ok .standard → given = .text command.expression →
    command.times = 1 → command.startsFrom (start.after earlier).generator = g → script = .generator g →
    let ran := run (start.after earlier) config project (.roll command)
    ran.1.Tells p.expression command.breakdown report ∧
      (command.seed = none → report.state.script = .generator ran.2.generator)

/--
**All ways to roll agree.**

Let an expression compile under the standard limits. On sources in one state, an evaluator that is rolled for its
total, an evaluator that is rolled for its parts, a roll in one step and a command that rolls once come to the same
total, or are stopped by the same error, and each of them has then asked for the same dice. The command prints that
total, or that error. What the compilers have kept makes no difference. The total of a roll in one step is the sum
of its dice and of its numbers that are no dice; the total of any parts is, and is summed up from every value of
every part, once and in order.
-/
theorem rolls_agree [Validator] [Console] [LawfulConsole] {given : Value} {p : Program}
    (hp : Program.ofExpression .standard given = .ok p) (script : Script) :
    AllTell given p script ((rollTerms p.terms).run Scripted.source ⟨script, 0⟩) ∧
      ∀ parts, total parts = (parts.flatMap Part.rolls).sum + (parts.filterMap Part.integer?).sum ∧
        total parts = (flatten parts).sum ∧ KeepsValues parts (flatten parts) := by
  refine ⟨⟨?_, ?_, ?_, ?_, ?_⟩, fun parts => ⟨total_eq_rolls_add_integers parts, rfl, keepsValues_flatten parts⟩⟩
  · intro s c saveAs hc hreachable
    obtain ⟨made, hmade, hprogram⟩ := hreachable.exists_compile_of_ofExpression hp
    exact ⟨s.dice_perform_compile none given saveAs, made.value, hprogram,
      Session.lookup_perform_compile hc hmade saveAs⟩
  · rintro s name e reduce source he rfl hsource
    exact Session.tells_of_perform_roll he hsource reduce
  · intro s c source hc hreachable hsource
    obtain ⟨made, hmade, rfl⟩ := hreachable.exists_compile_of_ofExpression hp
    exact Session.tells_of_perform_rollOnce hc hmade hsource
  · intro s c source hc hreachable hsource parts hparts
    obtain ⟨made, hmade, rfl⟩ := hreachable.exists_compile_of_ofExpression hp
    exact Session.summary_of_perform_rollOnce hc hmade hsource hparts
  · rintro start earlier config project command g hstandard hproject hlimits rfl htimes hstarts rfl ran
    obtain ⟨made, -, rfl⟩ := (Reachable.init 0).exists_compile_of_ofExpression hp
    have hfits := (Program.ofExpression_eq_ok_iff.mp hp).2
    have hplain := Program.all_isOrdinary_expression hp
    have hdesk := (CommandLine.Desk.keepsTo_none hstandard hproject).after earlier
    obtain ⟨⟨notes, hran⟩, hleft⟩ := hdesk.runRoll hlimits hp
    obtain ⟨made', hscript⟩ := Scripted.run_generator (rollTerms made.value.program.terms) g 0
    rw [htimes, hstarts] at hran hleft
    obtain ⟨htells, hstate⟩ := tells_of_rollLines hfits hplain command.breakdown command.verbose g
    rw [hscript]
    refine ⟨?_, fun hseed => ?_⟩
    · have hprinted : ran.1 = _ := hran
      rw [hprinted]
      exact ⟨htells.failure, htells.asked, htells.rolled, htells.stopped⟩
    · have hgenerator : ran.2.generator = _ := hleft hseed
      rw [hgenerator, hstate]
      rfl

/-- An exploding pool in a session, on a source of its own, and in a command with the same seed. -/
theorem rolls_agree_exploding :
    letI : Validator := .lenient fun _ => []
    letI : Console := .terminal
    let script : Script := .generator (Twister.ofSeed 7)
    let p : Program := ⟨"1+2d6!", ["1", "+2d6!"],
      [.constant 1, .pool { count := 2, faces := 6, modifier := some "!", argument := 6 }]⟩
    let report := (rollTerms p.terms).run Scripted.source ⟨script, 0⟩
    let s : Session := { dice := { sources := [⟨none, 0, true⟩, ⟨some "own", 1, true⟩], sourceNames := [("own", 1)],
                                   wells := [.fixed 1, script] } }
    let compiled := (s.perform (.compile none (.text "1 + 2D6!") "e")).2
    let command : RollCommand := { expression := "1 + 2D6!", breakdown := true, seed := some 7 }
    LawfulConsole ∧ Program.ofExpression .standard (.text "1 + 2D6!") = .ok p ∧
      (∀ reduce, (compiled.perform (.roll "e" reduce (some "own"))).1.Tells report) ∧
      (compiled.perform (.rollOnce (.text "1 + 2D6!") (some "own"))).1.Tells report ∧
      (run {} none ⟨"config.toml", .missing⟩ (.roll command)).1.Tells p.expression true report := by
  intro script p report s compiled command
  let _ : Validator := .lenient fun _ => []
  let _ : Console := .terminal
  have hlawful : LawfulConsole := lawfulConsole_terminal
  have hp : Program.ofExpression .standard (.text "1 + 2D6!") = .ok p := by
    decide +kernel
  have hreachable : Reachable .standard { owner := 0 } := .init 0
  obtain ⟨⟨hcompiled, hevaluator, honce, -, hcommand⟩, -⟩ := rolls_agree hp script
  obtain ⟨-, e, he, hlookup⟩ := hcompiled s { owner := 0 } "e" rfl hreachable
  have hoffers : s.Offers (some "own") script := ⟨1, _, rfl, rfl⟩
  refine ⟨hlawful, hp, fun reduce => ?_, ?_, ?_⟩
  · exact hevaluator compiled "e" e reduce (some "own") hlookup he hoffers
  · exact honce compiled _ (some "own") rfl (hreachable.compile (.text "1 + 2D6!")) hoffers
  · exact (hcommand {} [] none ⟨"config.toml", .missing⟩ command (Twister.ofSeed 7) hreachable rfl rfl rfl rfl
      rfl rfl).1

end DiceNotation
