import DiceNotation.Proofs.CommandLine.Isolation
import DiceNotation.Proofs.Roll.Repeated
import DiceNotation.Proofs.Source.Generator
import DiceNotation.Proofs.Term.Magnitude

/-!
# Repeated rolls

A command that rolls several times runs one evaluator again and again on one generator. It shows the runs up
to the first one that fails, one line for each, and then the error of that one: what was printed before stays.
If fewer runs go well than were asked for, the command fails, and only then. So to ask for more rolls with the
same seed never changes the lines of those before.

Only explosions can fail here. The generator answers for every die. That a total is too long to be written, or a
line too long for the console, is left out by assumption.
-/

namespace DiceNotation.CommandLine

open Compiler (Reachable)

variable {e : Evaluator} {withBreakdown : Bool} {g : Twister} {times : Nat} {lines : List String}

/-! ## Lines -/

/-- The lines for the first runs of an evaluator on the generator, up to the first run that fails. -/
structure StreakLines (e : Evaluator) (withBreakdown : Bool) (g : Twister) (times : Nat) (lines : List String) :
    Prop where
  /-- There are as many as runs are asked for, or as go well if these are fewer. -/
  length : (lines.length : ℕ∞) = min (times : ℕ∞) (e.roll.streak Twister.source g)
  /-- Each line shows the total to which its run has come and, where they are asked for, the parts before it. -/
  shown : ∀ i line, lines[i]? = some line → ∃ parts,
    (e.roll.nth Twister.source g i).outcome = .ok parts ∧
      line = "  Roll " ++ e.expression ++ ": " ++ (if withBreakdown then breakdown parts ++ " = " else "") ++
        toString (total parts)

theorem streakLines_nil_iff (h : min (times : ℕ∞) (e.roll.streak Twister.source g) = 0) :
    StreakLines e withBreakdown g times lines ↔ lines = [] := by
  constructor
  · intro hlines
    have hlength := hlines.length
    rw [h] at hlength
    exact List.length_eq_zero_iff.mp (Nat.cast_eq_zero.mp hlength)
  · rintro rfl
    exact ⟨h.symm, fun i line hline => by simp at hline⟩

theorem streakLines_zero_iff : StreakLines e withBreakdown g 0 lines ↔ lines = [] :=
  streakLines_nil_iff (min_eq_left bot_le)

theorem streakLines_iff_of_error {error : RollError}
    (h : (e.roll.run Twister.source g).outcome = .error error) :
    StreakLines e withBreakdown g times lines ↔ lines = [] :=
  streakLines_nil_iff (by rw [Roll.streak_eq_zero h, min_zero])

/-- The lines for a run that goes well and for those after it. -/
theorem streakLines_succ_iff {parts : List Part} (h : (e.roll.run Twister.source g).outcome = .ok parts) :
    StreakLines e withBreakdown g (times + 1) lines ↔
      ∃ rest, lines = rollLine e.expression withBreakdown parts :: rest ∧
        StreakLines e withBreakdown (e.roll.run Twister.source g).state times rest := by
  have hmin : min ((times + 1 : Nat) : ℕ∞) (e.roll.streak Twister.source g) =
      min (times : ℕ∞) (e.roll.streak Twister.source (e.roll.run Twister.source g).state) + 1 := by
    rw [Roll.streak_eq_succ h, Nat.cast_add_one, min_add_add_right]
  constructor
  · intro hlines
    have hlength := hlines.length
    rw [hmin] at hlength
    cases lines with
    | nil => exact absurd hlength.symm (by simp)
    | cons line rest =>
      obtain ⟨parts', hparts, hshown⟩ := hlines.shown 0 line rfl
      rw [Roll.nth_zero, h] at hparts
      cases hparts
      rw [List.length_cons, Nat.cast_add_one] at hlength
      have hrest := ENat.add_left_injective_of_ne_top ENat.one_ne_top hlength
      refine ⟨rest, by rw [hshown, rollLine_eq], hrest, fun i line hline => ?_⟩
      rw [← Roll.nth_succ]
      exact hlines.shown (i + 1) line hline
  · rintro ⟨rest, rfl, hrest⟩
    refine ⟨by rw [hmin, List.length_cons, Nat.cast_add_one, hrest.length], fun i line hline => ?_⟩
    cases i with
    | zero =>
      cases hline
      exact ⟨parts, h, rollLine_eq _ _ _⟩
    | succ i =>
      rw [Roll.nth_succ]
      exact hrest.shown i line hline

theorem exists_streakLines (e : Evaluator) (withBreakdown : Bool) (g : Twister) (times : Nat) :
    ∃ lines, StreakLines e withBreakdown g times lines := by
  induction times generalizing g with
  | zero => exact ⟨[], streakLines_zero_iff.mpr rfl⟩
  | succ times ih =>
    cases h : (e.roll.run Twister.source g).outcome with
    | error error => exact ⟨[], (streakLines_iff_of_error h).mpr rfl⟩
    | ok parts =>
      obtain ⟨rest, hrest⟩ := ih (e.roll.run Twister.source g).state
      exact ⟨_, (streakLines_succ_iff h).mpr ⟨rest, rfl, hrest⟩⟩

/-- **More runs show the same lines first.** -/
theorem StreakLines.isPrefix {few many : Nat} (hle : few ≤ many) {fewer more : List String}
    (hfew : StreakLines e withBreakdown g few fewer) (hmany : StreakLines e withBreakdown g many more) :
    fewer <+: more := by
  induction few generalizing many g fewer more with
  | zero =>
    rw [streakLines_zero_iff.mp hfew]
    exact List.nil_prefix
  | succ few ih =>
    obtain ⟨others, rfl⟩ : ∃ others, many = others + 1 := ⟨many - 1, by omega⟩
    cases h : (e.roll.run Twister.source g).outcome with
    | error error =>
      rw [(streakLines_iff_of_error h).mp hfew]
      exact List.nil_prefix
    | ok parts =>
      obtain ⟨fewerLater, rfl, hfewLater⟩ := (streakLines_succ_iff h).mp hfew
      obtain ⟨moreLater, rfl, hmanyLater⟩ := (streakLines_succ_iff h).mp hmany
      exact (List.prefix_cons_inj _).mpr (ih (Nat.le_of_succ_le_succ hle) hfewLater hmanyLater)

/-! ## Endings -/

/-- The totals of the runs that are shown can be written. -/
def Writable (e : Evaluator) (g : Twister) (times : Nat) : Prop :=
  ∀ i < times, (i : ℕ∞) < e.roll.streak Twister.source g →
    ∀ parts, (e.roll.nth Twister.source g i).outcome = .ok parts → Text.isOverlong (total parts) = false

/-- Under limits that are not extremely large, all totals can be written. -/
theorem writable_of_fits {limits : Limits} (h : e.program.Fits limits)
    (hlimits : limits.maxChunks * limits.mostOfChunk < 10 ^ Text.maxDigits) (g : Twister) (times : Nat) :
    Writable e g times := by
  intro i _ _ parts hparts
  cases i with
  | zero => exact h.isOverlong_total hlimits Twister.source_showsFaces hparts
  | succ i => exact h.isOverlong_total hlimits Twister.source_showsFaces hparts

/-- How a command ends that shows runs with the given lines. -/
structure Outcome.EndsAfter (e : Evaluator) (g : Twister) (times : Nat) (lines : List String) (o : Outcome) :
    Prop where
  /-- All that it has to say is printed on the output. -/
  failure : o.failure = none
  /-- Where all runs go well, there is nothing but the lines. -/
  whole : (times : ℕ∞) ≤ e.roll.streak Twister.source g → o.output = lines ∧ o.succeeded = true
  /-- Where a run fails, its error comes after the lines. -/
  cut : e.roll.streak Twister.source g < times → ∃ n error, e.roll.streak Twister.source g = (n : ℕ) ∧
    (e.roll.nth Twister.source g n).outcome = .error error ∧
    o.output = lines ++ ["Error: " ++ error.message] ∧ o.succeeded = false

theorem Writable.of_succ {parts : List Part} (h : (e.roll.run Twister.source g).outcome = .ok parts)
    (hwritable : Writable e g (times + 1)) : Text.isOverlong (total parts) = false ∧
      Writable e (e.roll.run Twister.source g).state times := by
  have hstreak := Roll.streak_eq_succ h
  constructor
  · refine hwritable 0 (Nat.zero_lt_succ times) ?_ parts h
    rw [hstreak]
    exact pos_iff_ne_zero.mpr (by simp)
  · intro i hi hlt parts' hparts
    rw [← Roll.nth_succ] at hparts
    refine hwritable (i + 1) (Nat.succ_lt_succ hi) ?_ parts' hparts
    rw [hstreak, Nat.cast_add_one]
    exact (ENat.add_lt_add_iff_right ENat.one_ne_top).mpr hlt

section Showing

variable [Console]

theorem rollLines_of_error {face : Int} {size pending : Nat} {limit : Int}
    (h : (e.roll.run Twister.source g).outcome = .error (.limitExceeded face size pending limit))
    (withBreakdown verbose : Bool) (times : Nat) :
    rollLines e withBreakdown verbose (times + 1) g =
      ({ output := errorLines (RollError.limitExceeded face size pending limit).message
         errors := noteLines verbose (RollError.limitExceeded face size pending limit).notes
         succeeded := false
         asked := (e.roll.run Twister.source g).calls }, (e.roll.run Twister.source g).state) := by
  rw [rollLines, h]

theorem rollLines_of_ok {parts : List Part} (h : (e.roll.run Twister.source g).outcome = .ok parts)
    (hwritable : Text.isOverlong (total parts) = false) (withBreakdown verbose : Bool) (times : Nat) :
    rollLines e withBreakdown verbose (times + 1) g =
      let later := rollLines e withBreakdown verbose times (e.roll.run Twister.source g).state
      let shown := Console.print (markup (rollSpans e.expression withBreakdown (total parts) parts))
      ({ later.1 with output := shown ++ later.1.output
                      asked := (e.roll.run Twister.source g).calls ++ later.1.asked }, later.2) := by
  rw [rollLines, h]
  simp only [hwritable, Bool.false_eq_true, if_false]

/-- The lines that show the runs fit the console, and so does the line for the error that ends them. -/
structure LinesFit (e : Evaluator) (withBreakdown : Bool) (g : Twister) (times : Nat) : Prop where
  shown : ∀ lines, StreakLines e withBreakdown g times lines → ∀ line ∈ lines, Console.Fits line
  stopped : ∀ n < times, e.roll.streak Twister.source g = (n : ℕ) → ∀ error,
    (e.roll.nth Twister.source g n).outcome = .error error → Console.Fits ("Error: " ++ error.message)

theorem LinesFit.of_succ {parts : List Part} (h : (e.roll.run Twister.source g).outcome = .ok parts)
    (hfit : LinesFit e withBreakdown g (times + 1)) :
    Console.Fits (rollLine e.expression withBreakdown parts) ∧
      LinesFit e withBreakdown (e.roll.run Twister.source g).state times := by
  refine ⟨?_, fun lines hlines line hline => ?_, fun n hn hstreak error herror => ?_⟩
  · obtain ⟨rest, hrest⟩ := exists_streakLines e withBreakdown (e.roll.run Twister.source g).state times
    exact hfit.shown _ ((streakLines_succ_iff h).mpr ⟨rest, rfl, hrest⟩) _ List.mem_cons_self
  · exact hfit.shown _ ((streakLines_succ_iff h).mpr ⟨lines, rfl, hlines⟩) line (List.mem_cons_of_mem _ hline)
  · refine hfit.stopped (n + 1) (Nat.succ_lt_succ hn) ?_ error (by rwa [Roll.nth_succ])
    rw [Roll.streak_eq_succ h, hstreak, Nat.cast_add_one]

variable [LawfulConsole]

/-- **Runs one after the other** are shown by their lines, and end with them or with an error. -/
theorem endsAfter_rollLines {limits : Limits} (hfits : e.program.Fits limits)
    (hplain : e.expression.toList.all isOrdinary = true) (hlines : StreakLines e withBreakdown g times lines)
    (hwritable : Writable e g times) (hfit : LinesFit e withBreakdown g times) (verbose : Bool) :
    (rollLines e withBreakdown verbose times g).1.EndsAfter e g times lines := by
  induction times generalizing g lines with
  | zero =>
    rw [streakLines_zero_iff.mp hlines]
    exact ⟨rfl, fun _ => ⟨rfl, rfl⟩, fun hlt => absurd hlt not_lt_bot⟩
  | succ times ih =>
    cases h : (e.roll.run Twister.source g).outcome with
    | error error =>
      -- of all that may be wrong with a roll, only an explosion may be wrong with this one
      obtain ⟨face, size, pending, rfl⟩ := Compiler.limitExceeded_of_fits hfits Twister.source_answers h
      have hshown := shows_errorLines (isPlain_message_limitExceeded face size pending limits.maxDice)
      have hline := hshown.whole (hfit.stopped 0 (Nat.zero_lt_succ times) (Roll.streak_eq_zero h) _ h)
      rw [rollLines_of_error h, (streakLines_iff_of_error h).mp hlines]
      refine ⟨rfl, fun hle => ?_, fun _ => ⟨0, _, Roll.streak_eq_zero h, h, hline, rfl⟩⟩
      rw [Roll.streak_eq_zero h] at hle
      exact absurd hle (by simp)
    | ok parts =>
      obtain ⟨rest, rfl, hrest⟩ := (streakLines_succ_iff h).mp hlines
      obtain ⟨htotal, hlater⟩ := hwritable.of_succ h
      obtain ⟨hline, hfitLater⟩ := hfit.of_succ h
      obtain ⟨hfailure, hwhole, hcut⟩ := ih hrest hlater hfitLater
      rw [rollLines_of_ok h htotal]
      dsimp only
      rw [(shows_roll hplain withBreakdown parts).whole (by rwa [← rollLine_eq]), ← rollLine_eq]
      refine ⟨hfailure, fun hle => ?_, fun hlt => ?_⟩
      · rw [Roll.streak_eq_succ h, Nat.cast_add_one, ENat.add_le_add_iff_right ENat.one_ne_top] at hle
        obtain ⟨houtput, hsucceeded⟩ := hwhole hle
        exact ⟨congrArg _ houtput, hsucceeded⟩
      · rw [Roll.streak_eq_succ h, Nat.cast_add_one, ENat.add_lt_add_iff_right ENat.one_ne_top] at hlt
        obtain ⟨n, error, hn, herror, houtput, hsucceeded⟩ := hcut hlt
        refine ⟨n + 1, error, ?_, ?_, congrArg _ houtput, hsucceeded⟩
        · rw [Roll.streak_eq_succ h, hn, Nat.cast_add_one]
        · rw [Roll.nth_succ]
          exact herror

end Showing

/-! ## Commands -/

/-- The state of the generator in which a command begins to roll. -/
def RollCommand.startsFrom (command : RollCommand) (shared : Twister) : Twister :=
  command.seed.elim shared Twister.ofSeed

section Process

variable [Validator] [Console]
variable {desk : Desk} {limits? : Option Limits} {config : Option Document} {project : Document} {limits : Limits}

/-- **A command whose expression compiles** rolls what it compiles to. Without a seed it leaves the shared
generator where it has come to. -/
theorem Desk.KeepsTo.runRoll (h : desk.KeepsTo limits?) (hlimits : limitsFor limits? config project = .ok limits)
    {command : RollCommand} (he : Program.ofExpression limits (.text command.expression) = .ok e.program) :
    let rolled := rollLines e command.breakdown command.verbose command.times (command.startsFrom desk.generator)
    (∃ notes, (CommandLine.runRoll desk config project command).1 =
        rolled.1.afterErrors (noteLines command.verbose notes)) ∧
      (command.seed = none → (CommandLine.runRoll desk config project command).2.generator = rolled.2) := by
  have hcompiles := (h.compileFor command.verbose config project command.expression).1
  have hgenerator := compileFor_generator desk command.verbose config project command.expression
  rw [hlimits] at hcompiles
  unfold CommandLine.runRoll RollCommand.startsFrom
  generalize CommandLine.compileFor desk command.verbose config project command.expression = compiled
    at hcompiles hgenerator
  obtain ⟨result, next, notes⟩ := compiled
  dsimp only at hcompiles hgenerator
  cases hcompiles with
  | failed _ hfailed =>
    rw [he] at hfailed
    cases hfailed
  | compiled hprogram =>
    rw [he] at hprogram
    have hsame := rollLines_eq_of_program_eq (Except.ok.inj hprogram)
    cases hseed : command.seed with
    | some seed =>
      refine ⟨⟨notes, ?_⟩, fun hnone => by cases hnone⟩
      rw [hsame]
      rfl
    | none =>
      dsimp only
      rw [hgenerator, hsame]
      exact ⟨⟨notes, rfl⟩, fun _ => rfl⟩

/--
**Repeated rolls show a streak.**

Let any commands have been run in a process, and let an expression compile under the limits of the next one.
Its evaluator, run again and again on the generator with any seed, has a streak of runs that go well, which may
be without end. A command that rolls the expression some number of times with that seed prints one line for
each run, up to the end of the streak, with the total and, if they are asked for, the parts to which that run
has come. If the streak is shorter, the error of the run that ends it follows, and the command fails; else there
is nothing more, and the command goes well. So to roll more often only adds lines. Totals that are too long to
be written are left out, and lines that do not fit the console.
-/
theorem seeded_rolls_show_streak [LawfulConsole] {start : Desk} (hstandard : Reachable .standard start.standard)
    (hproject : start.project = none) (earlier : List Invocation)
    (hlimits : limitsFor (projectLimits? earlier) config project = .ok limits) {command : RollCommand}
    {seed : Int} (hseed : command.seed = some seed)
    (he : Program.ofExpression limits (.text command.expression) = .ok e.program) :
    ∃ lines : Nat → List String,
      (∀ times, StreakLines e command.breakdown (Twister.ofSeed seed) times (lines times)) ∧
      (∀ few many, few ≤ many → lines few <+: lines many) ∧
      ∀ times, Writable e (Twister.ofSeed seed) times → LinesFit e command.breakdown (Twister.ofSeed seed) times →
        (run (start.after earlier) config project (.roll { command with times := times })).1.EndsAfter e
          (Twister.ofSeed seed) times (lines times) := by
  have hdesk := (Desk.keepsTo_none hstandard hproject).after earlier
  have hfits : e.program.Fits limits := (Program.ofExpression_eq_ok_iff.mp he).2
  have hplain : e.expression.toList.all isOrdinary = true := Program.all_isOrdinary_expression he
  choose lines hlines using exists_streakLines e command.breakdown (Twister.ofSeed seed)
  refine ⟨lines, hlines, fun few many hle => (hlines few).isPrefix hle (hlines many), fun times hwritable hfit => ?_⟩
  let repeated : RollCommand := { command with times := times }
  have hexpression : Program.ofExpression limits (.text repeated.expression) = .ok e.program := he
  have hstarts : repeated.startsFrom (start.after earlier).generator = Twister.ofSeed seed := by
    rw [RollCommand.startsFrom, hseed]
    rfl
  obtain ⟨⟨notes, hrun⟩, -⟩ := hdesk.runRoll hlimits hexpression
  rw [hstarts] at hrun
  have hends := endsAfter_rollLines hfits hplain (hlines times) hwritable hfit command.verbose
  rw [run, hrun]
  exact ⟨hends.failure, hends.whole, hends.cut⟩

end Process

/-- Three exploding rolls show the same lines as two and perhaps one more, after a command that has settled the
standard limits. -/
theorem seeded_rolls_show_streak_exploding :
    letI : Validator := .lenient fun _ => []
    letI : Console := .terminal
    let nothing : Document := ⟨"config.toml", .missing⟩
    let earlier : List Invocation := [⟨none, nothing, .check { expression := "2d6!" }⟩]
    let command : RollCommand := { expression := "1 + 2D6!", breakdown := true, seed := some 7 }
    let e : Evaluator := ⟨"1+2d6!", ["1", "+2d6!"],
      [⟨⟨0, 0⟩, .constant 1⟩, ⟨⟨0, 1⟩, .pool { count := 2, faces := 6, modifier := some "!", argument := 6 }⟩]⟩
    Reachable .standard (Desk.standard {}) ∧ Desk.project {} = none ∧
      limitsFor (projectLimits? earlier) none nothing = .ok .standard ∧ command.seed = some 7 ∧
      Program.ofExpression .standard (.text command.expression) = .ok e.program ∧
      LawfulConsole ∧ Writable e (Twister.ofSeed 7) 3 ∧ LinesFit e true (Twister.ofSeed 7) 3 ∧
      ∃ two three, StreakLines e true (Twister.ofSeed 7) 2 two ∧ StreakLines e true (Twister.ofSeed 7) 3 three ∧
        two <+: three ∧
        (run (Desk.after {} earlier) none nothing (.roll { command with times := 3 })).1.EndsAfter e
          (Twister.ofSeed 7) 3 three := by
  intro nothing earlier command e
  let _ : Validator := .lenient fun _ => []
  let _ : Console := .terminal
  have hlawful : LawfulConsole := lawfulConsole_terminal
  have hstandard : Reachable .standard (Desk.standard {}) := .init 0
  have hproject : Desk.project {} = none := rfl
  have hlimits : limitsFor (projectLimits? earlier) none nothing = .ok .standard := rfl
  have he : Program.ofExpression .standard (.text command.expression) = .ok e.program := by
    decide +kernel
  have hwritable : Writable e (Twister.ofSeed 7) 3 :=
    writable_of_fits (Program.ofExpression_eq_ok_iff.mp he).2 Limits.standard_mostOfChunk_lt _ _
  have hfit : LinesFit e true (Twister.ofSeed 7) 3 := ⟨fun _ _ _ _ => trivial, fun _ _ _ _ _ => trivial⟩
  have hseed : command.seed = some 7 := rfl
  obtain ⟨lines, hlines, hmore, hends⟩ := seeded_rolls_show_streak hstandard hproject earlier hlimits hseed he
  refine ⟨hstandard, hproject, hlimits, hseed, he, hlawful, hwritable, hfit, lines 2, lines 3, hlines 2, hlines 3,
    ?_, ?_⟩
  · exact hmore 2 3 (by decide)
  · with_reducible exact hends 3 hwritable hfit

end DiceNotation.CommandLine
