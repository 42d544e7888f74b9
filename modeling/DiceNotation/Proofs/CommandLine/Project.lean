import Mathlib.Data.List.Induction
import DiceNotation.CommandLine.Run
import DiceNotation.Proofs.CommandLine.Shown
import DiceNotation.Proofs.CommandLine.Terminal
import DiceNotation.Proofs.Compiler.Faithful
import DiceNotation.Settings.Lenient

/-!
# The limits of a project

The commands of a process share the compiler of the project. It is made by the first command that names no
settings document and loads those of the project without an error, whether the command goes well from
there on or not. Until then every such command reads the project's document anew; from then on none does,
whatever becomes of the document. Commands that name a document of their own neither look at the project's
compiler nor change it.

Where the project sets no limits but the standard ones, its compiler is the standard one, with all that it
has kept. That it is, and stays, under the standard limits is part of the invariant.
-/

namespace DiceNotation.CommandLine

open Compiler (Reachable)

/-! ## Desks -/

/-- The compiler of the project, if there is one. -/
def Desk.projectCompiler? (desk : Desk) : Option Compiler :=
  desk.project.map fun
    | .standard => desk.standard
    | .own c => c

/-- The project's limits are settled as given, or they are not settled, and its compiler works under them. -/
structure Desk.KeepsTo (limits? : Option Limits) (desk : Desk) : Prop where
  /-- The standard compiler works under the standard limits. -/
  standard : Reachable .standard desk.standard
  /-- There is a compiler of the project if the limits are settled, and it works under them. -/
  project : Option.Rel Reachable limits? desk.projectCompiler?

/-- A compiler that a command may use, and may put back in its place. -/
structure Serves (limits? : Option Limits) (limits : Limits) (c : Compiler) (place : Place) (desk : Desk) :
    Prop where
  /-- The compiler works under the limits of the command. -/
  compiler : Reachable limits c
  /-- The desk is in order. -/
  desk : desk.KeepsTo limits?
  /-- The place is for compilers under these limits. -/
  place : match place with
    | .standard => limits = .standard
    | .project => limits? = some limits
    | .nowhere => True

variable {desk : Desk} {limits? : Option Limits} {config : Option Document} {project : Document}

/-- A compiler is under one kind of limits. -/
theorem eq_of_reachable {limits others : Limits} {c : Compiler} (h : Reachable limits c)
    (h' : Reachable others c) : limits = others :=
  (Compiler.faithful_reachable h).2.symm.trans (Compiler.faithful_reachable h').2

/-- The three states of a project. In the second one the limits that are settled are the standard ones, as
its compiler is the standard one. -/
theorem Desk.KeepsTo.project_cases (h : desk.KeepsTo limits?) :
    limits? = none ∧ desk.project = none ∨
      limits? = some .standard ∧ desk.project = some .standard ∨
      ∃ limits c, limits? = some limits ∧ desk.project = some (.own c) ∧ Reachable limits c := by
  have hproject := h.project
  unfold projectCompiler? at hproject
  cases hdesk : desk.project with
  | none =>
    rw [hdesk] at hproject
    cases hproject
    exact Or.inl ⟨rfl, rfl⟩
  | some p =>
    rw [hdesk] at hproject
    cases hproject with
    | some hreachable =>
      cases p with
      | standard =>
        obtain rfl := eq_of_reachable hreachable h.standard
        exact Or.inr (Or.inl ⟨rfl, rfl⟩)
      | own c => exact Or.inr (Or.inr ⟨_, c, rfl, rfl, hreachable⟩)

theorem Desk.KeepsTo.project_eq_none (h : desk.KeepsTo none) : desk.project = none := by
  rcases h.project_cases with ⟨-, hdesk⟩ | ⟨hcontra, -⟩ | ⟨_, _, hcontra, -⟩
  · exact hdesk
  · cases hcontra
  · cases hcontra

/-- A process begins without limits of the project. -/
theorem Desk.keepsTo_none (hstandard : Reachable .standard desk.standard) (hproject : desk.project = none) :
    desk.KeepsTo none := by
  refine ⟨hstandard, ?_⟩
  rw [projectCompiler?, hproject]
  exact .none

/-- The limits of the project's compiler are those that are settled. -/
theorem Desk.KeepsTo.map_limits (h : desk.KeepsTo limits?) :
    desk.projectCompiler?.map (·.limits) = limits? := by
  have hproject := h.project
  generalize desk.projectCompiler? = compiler? at hproject
  cases hproject with
  | none => rfl
  | some hreachable => exact congrArg some (Compiler.faithful_reachable hreachable).2

/-- A compiler that has gone on working goes back to its place. -/
theorem Serves.putBack {limits : Limits} {c : Compiler} {place : Place} (h : Serves limits? limits c place desk)
    {d : Compiler} (hd : Reachable limits d) : (desk.putBack d place).KeepsTo limits? := by
  obtain ⟨-, hdesk, hplace⟩ := h
  cases place with
  | nowhere => exact hdesk
  | project =>
    obtain rfl : limits? = some limits := hplace
    exact ⟨hdesk.standard, .some hd⟩
  | standard =>
    obtain rfl : limits = .standard := hplace
    refine ⟨hd, ?_⟩
    unfold Desk.projectCompiler?
    show Option.Rel Reachable limits? (desk.project.map _)
    -- where the project has the standard compiler, the project's compiler is put back with it
    rcases hdesk.project_cases with ⟨rfl, hnone⟩ | ⟨rfl, hstandard⟩ | ⟨others, own, rfl, hown, hreachable⟩
    · rw [hnone]
      exact .none
    · rw [hstandard]
      exact .some hd
    · rw [hown]
      exact .some hreachable

/-! ## Commands -/

/-- The expression of a command and whether the command is verbose; a command for help has none. -/
def Command.expression? : Command → Option (String × Bool)
  | .roll command => some (command.expression, command.verbose)
  | .check command => some (command.expression, false)
  | .help => none

theorem Command.eq_help_or_expression? (command : Command) :
    command = .help ∨ command ≠ .help ∧ ∃ expression verbose, command.expression? = some (expression, verbose) := by
  cases command with
  | help => exact Or.inl rfl
  | roll command => exact Or.inr ⟨nofun, _, _, rfl⟩
  | check command => exact Or.inr ⟨nofun, _, _, rfl⟩

/-- A command as it is run: with the settings document that it names, if it names one, and with that of the
project as it is found at that time. -/
structure Invocation where
  config : Option Document
  project : Document
  command : Command

/-! ## Which limits -/

section Process

variable [Validator]

/-- The limits under which a command works, `limits?` being those of the project if they are settled. -/
def limitsFor (limits? : Option Limits) (config : Option Document) (project : Document) :
    Except LoadError Limits :=
  match config, limits? with
  | some document, _ => (loadLimits document.path document.file).1
  | none, some limits => .ok limits
  | none, none => (loadLimits project.path project.file).1

/-- The limits that a command would settle for the project. -/
def settles? (config : Option Document) (project : Document) : Option Limits :=
  match config with
  | some _ => none
  | none => (loadLimits project.path project.file).1.toOption

/-- The limits that the command settles for the project if no command before it did: those of the project's
document, unless it names a document of its own, or they cannot be loaded, or it only asks for help. -/
def Invocation.settles? (i : Invocation) : Option Limits :=
  if i.command = .help then none else CommandLine.settles? i.config i.project

/-- The limits of the project after commands: those that the first one settled that settled any. -/
def projectLimits? (earlier : List Invocation) : Option Limits := earlier.findSome? (·.settles?)

theorem projectLimits?_concat (earlier : List Invocation) (i : Invocation) :
    projectLimits? (earlier ++ [i]) = (projectLimits? earlier).or i.settles? := by
  simp [projectLimits?, List.findSome?_append]

/-! ## Choosing a compiler -/

/-- How choosing a compiler may end: an error of loading leaves the desk as it was, and otherwise there is a
compiler under the limits that were loaded or settled. -/
inductive Desk.Chooses (limits? : Option Limits) (desk : Desk) :
    Except LoadError Limits → Except LoadError (Compiler × Place) × Desk × List Note → Prop where
  | failed {e : LoadError} {notes : List Note} : desk.KeepsTo limits? →
      Chooses limits? desk (.error e) (.error e, desk, notes)
  | chosen {limits : Limits} {c : Compiler} {place : Place} {next : Desk} {notes : List Note} :
      Serves limits? limits c place next → Chooses limits? desk (.ok limits) (.ok (c, place), next, notes)

namespace Desk.KeepsTo

theorem chooses_of_config (h : desk.KeepsTo limits?) (document project : Document) :
    desk.Chooses limits? (loadLimits document.path document.file).1
      (chooseCompiler desk (some document) project) := by
  unfold chooseCompiler
  dsimp only
  rcases loadLimits document.path document.file with ⟨outcome, notes⟩
  cases outcome with
  | error e => exact .failed h
  | ok limits => exact .chosen ⟨.init _, ⟨h.standard, h.project⟩, trivial⟩

theorem chooses_of_settled {limits : Limits} (h : desk.KeepsTo (some limits)) (project : Document) :
    desk.Chooses (some limits) (.ok limits) (chooseCompiler desk none project) := by
  unfold chooseCompiler
  rcases h.project_cases with ⟨hcontra, -⟩ | ⟨hlimits, hdesk⟩ | ⟨_, c, hlimits, hdesk, hreachable⟩
  · cases hcontra
  · cases hlimits
    rw [hdesk]
    exact .chosen ⟨h.standard, h, rfl⟩
  · cases hlimits
    rw [hdesk]
    exact .chosen ⟨hreachable, h, rfl⟩

theorem chooses_of_unsettled (h : desk.KeepsTo none) (project : Document) :
    desk.Chooses (loadLimits project.path project.file).1.toOption
      (loadLimits project.path project.file).1 (chooseCompiler desk none project) := by
  unfold chooseCompiler
  rw [h.project_eq_none]
  dsimp only
  rcases loadLimits project.path project.file with ⟨outcome, notes⟩
  cases outcome with
  | error e => exact .failed h
  | ok limits =>
    dsimp only
    by_cases hlimits : limits = .standard
    · -- the standard compiler becomes the project's, with what it has kept
      subst hlimits
      rw [if_pos rfl]
      exact .chosen ⟨h.standard, ⟨h.standard, .some h.standard⟩, rfl⟩
    · rw [if_neg hlimits]
      exact .chosen ⟨.init _, ⟨h.standard, .some (.init _)⟩, rfl⟩

/-- **A command's compiler is under its limits**, and if none were settled for the project it settles those
that it loads. -/
theorem chooses (h : desk.KeepsTo limits?) (config : Option Document) (project : Document) :
    desk.Chooses (limits?.or (settles? config project)) (limitsFor limits? config project)
      (chooseCompiler desk config project) := by
  cases config with
  | some document =>
    rw [settles?, Option.or_none]
    exact h.chooses_of_config document project
  | none =>
    cases limits? with
    | some limits => exact h.chooses_of_settled project
    | none => exact h.chooses_of_unsettled project

end Desk.KeepsTo

/-! ## Compiling -/

variable [Console]

/-- What compiling the expression of a command comes to under limits that were loaded, or not. -/
inductive CompilesTo (verbose : Bool) (expression : String) :
    Except LoadError Limits → Except Outcome Evaluator → Prop where
  | unloaded {e : LoadError} (notes : List Note) :
      CompilesTo verbose expression (.error e) (.error (loadOutcome verbose notes e))
  | failed {limits : Limits} {e : CompileError} (notes : List Note) :
      Program.ofExpression limits (.text expression) = .error e →
      CompilesTo verbose expression (.ok limits) (.error (compileOutcome verbose notes e))
  | compiled {limits : Limits} {e : Evaluator} :
      Program.ofExpression limits (.text expression) = .ok e.program →
      CompilesTo verbose expression (.ok limits) (.ok e)

/-- A compiler under the limits compiles what is to be compiled. -/
theorem compilesTo_of_reachable {limits : Limits} {c : Compiler} (hc : Reachable limits c) (verbose : Bool)
    (expression : String) (notes : List Note) :
    CompilesTo verbose expression (.ok limits)
      (match (c.compile (.text expression)).1 with
        | .error e => .error (compileOutcome verbose notes e)
        | .ok made => .ok made.value) := by
  cases hcompile : (c.compile (.text expression)).1 with
  | error e => exact .failed notes (hc.compile_error_iff.mp hcompile)
  | ok made => exact .compiled (hc.ofExpression_of_compile hcompile)

/-- **Compiling for a command** is compiling under its limits, and leaves the desk in order. -/
theorem Desk.KeepsTo.compileFor (h : desk.KeepsTo limits?) (verbose : Bool) (config : Option Document)
    (project : Document) (expression : String) :
    CompilesTo verbose expression (limitsFor limits? config project)
        (CommandLine.compileFor desk verbose config project expression).1 ∧
      (CommandLine.compileFor desk verbose config project expression).2.1.KeepsTo
        (limits?.or (settles? config project)) := by
  have hchooses := h.chooses config project
  unfold CommandLine.compileFor
  -- what was chosen is all that compiling depends on
  generalize limitsFor limits? config project = loaded, chooseCompiler desk config project = result at hchooses
  cases hchooses with
  | failed hkeeps => exact ⟨.unloaded _, hkeeps⟩
  | @chosen limits c place next notes hserves =>
    have hkeeps := hserves.putBack (hserves.compiler.compile (.text expression))
    dsimp only
    rcases hcompile : c.compile (.text expression) with ⟨outcome, d, more⟩
    have hcompiles := compilesTo_of_reachable hserves.compiler verbose expression (notes ++ more)
    rw [hcompile] at hkeeps hcompiles
    cases outcome with
    | error e => exact ⟨hcompiles, hkeeps⟩
    | ok made => exact ⟨hcompiles, hkeeps⟩

/-- A command that names a document leaves the project's compiler as it was. -/
theorem projectCompiler?_compileFor_of_config (desk : Desk) (verbose : Bool) (document project : Document)
    (expression : String) :
    (compileFor desk verbose (some document) project expression).2.1.projectCompiler? =
      desk.projectCompiler? := by
  unfold compileFor chooseCompiler
  dsimp only
  rcases loadLimits document.path document.file with ⟨outcome, notes⟩
  cases outcome with
  | error e => rfl
  | ok limits =>
    dsimp only
    rcases Compiler.compile _ (.text expression) with ⟨outcome, d, more⟩
    cases outcome with
    | error e => rfl
    | ok made => rfl

/-- A command that names none compiles with the project's compiler, if there is one, and keeps what
compiling leaves of it. -/
theorem projectCompiler?_compileFor_of_project {c : Compiler} (h : desk.projectCompiler? = some c)
    (verbose : Bool) (project : Document) (expression : String) :
    (compileFor desk verbose none project expression).2.1.projectCompiler? =
      some (c.compile (.text expression)).2.1 := by
  unfold Desk.projectCompiler? at h
  unfold compileFor chooseCompiler
  cases hdesk : desk.project with
  | none =>
    rw [hdesk] at h
    cases h
  | some p =>
    rw [hdesk] at h
    cases p with
    | standard =>
      cases h
      dsimp only
      rcases desk.standard.compile (.text expression) with ⟨outcome, d, more⟩
      cases outcome with
      | error e => simp [Desk.putBack, Desk.projectCompiler?, hdesk]
      | ok made => simp [Desk.putBack, Desk.projectCompiler?, hdesk]
    | own kept =>
      cases h
      dsimp only
      rcases kept.compile (.text expression) with ⟨outcome, d, more⟩
      cases outcome with
      | error e => rfl
      | ok made => rfl

/-! ## Running -/

/-- What a command comes to under limits that were loaded, or not. -/
inductive RunsTo (loaded : Except LoadError Limits) : Command → Outcome → Prop where
  | help : RunsTo loaded .help {}
  | rollStopped {command : RollCommand} {outcome : Outcome} :
      CompilesTo command.verbose command.expression loaded (.error outcome) →
      RunsTo loaded (.roll command) outcome
  | rolled {command : RollCommand} {e : Evaluator} (notes : List Note) (generator : Twister) :
      CompilesTo command.verbose command.expression loaded (.ok e) →
      RunsTo loaded (.roll command)
        ((rollLines e command.breakdown command.verbose command.times generator).1.afterErrors
          (noteLines command.verbose notes))
  | checkStopped {command : CheckCommand} {outcome : Outcome} :
      CompilesTo false command.expression loaded (.error outcome) → RunsTo loaded (.check command) outcome
  | checked {command : CheckCommand} {e : Evaluator} (notes : List Note) :
      CompilesTo false command.expression loaded (.ok e) →
      RunsTo loaded (.check command) { output := Console.printTable (chunkTable e), errors := noteLines false notes }

/-- A command that has an expression compiles it, and then changes nothing but the generator. -/
theorem run_left {command : Command} {expression : String} {verbose : Bool}
    (h : command.expression? = some (expression, verbose)) (desk : Desk) (config : Option Document)
    (project : Document) : ∃ g, (run desk config project command).2 =
      { (compileFor desk verbose config project expression).2.1 with generator := g } := by
  cases command with
  | help => cases h
  | roll command =>
    cases h
    unfold run runRoll
    dsimp only
    rcases compileFor desk command.verbose config project command.expression with ⟨outcome, next, notes⟩
    cases outcome with
    | error outcome => exact ⟨next.generator, rfl⟩
    | ok e =>
      cases command.seed with
      | some seed => exact ⟨next.generator, rfl⟩
      | none => exact ⟨_, rfl⟩
  | check command =>
    cases h
    unfold run runCheck
    dsimp only
    rcases compileFor desk false config project command.expression with ⟨outcome, next, notes⟩
    cases outcome with
    | error outcome => exact ⟨next.generator, rfl⟩
    | ok e => exact ⟨next.generator, rfl⟩

/-- A command comes to what its expression compiles to. -/
theorem runsTo_run {loaded : Except LoadError Limits} {command : Command} {expression : String} {verbose : Bool}
    (hexpression : command.expression? = some (expression, verbose)) {desk : Desk}
    {config : Option Document} {project : Document}
    (h : CompilesTo verbose expression loaded (compileFor desk verbose config project expression).1) :
    RunsTo loaded command (run desk config project command).1 := by
  cases command with
  | help => cases hexpression
  | roll command =>
    cases hexpression
    unfold run runRoll
    dsimp only
    generalize compileFor desk command.verbose config project command.expression = compiled at h
    obtain ⟨outcome, next, notes⟩ := compiled
    cases outcome with
    | error outcome => exact .rollStopped h
    | ok e =>
      cases command.seed with
      | some seed => exact .rolled notes _ h
      | none => exact .rolled notes _ h
  | check command =>
    cases hexpression
    unfold run runCheck
    dsimp only
    generalize compileFor desk false config project command.expression = compiled at h
    obtain ⟨outcome, next, notes⟩ := compiled
    cases outcome with
    | error outcome => exact .checkStopped h
    | ok e => exact .checked notes h

/-! ## One command after the other -/

/-- Runs the command. -/
def Invocation.run (i : Invocation) (desk : Desk) : Outcome × Desk :=
  CommandLine.run desk i.config i.project i.command

/-- The desk after commands, be they successful or not. -/
def Desk.after (desk : Desk) (earlier : List Invocation) : Desk :=
  earlier.foldl (fun desk i => (i.run desk).2) desk

@[simp] theorem Desk.after_nil (desk : Desk) : desk.after [] = desk := rfl

theorem Desk.after_concat (desk : Desk) (earlier : List Invocation) (i : Invocation) :
    desk.after (earlier ++ [i]) = (i.run (desk.after earlier)).2 := by
  simp [after]

/-- **A command** comes to what it comes to under its limits, and leaves the desk in order. -/
theorem Desk.KeepsTo.run (h : desk.KeepsTo limits?) (i : Invocation) :
    RunsTo (limitsFor limits? i.config i.project) i.command (i.run desk).1 ∧
      (i.run desk).2.KeepsTo (limits?.or i.settles?) := by
  obtain ⟨config, project, command⟩ := i
  rcases command.eq_help_or_expression? with rfl | ⟨hhelp, expression, verbose, hexpression⟩
  · refine ⟨.help, ?_⟩
    rw [Invocation.settles?, if_pos rfl, Option.or_none]
    exact h
  · obtain ⟨hcompiles, hkeeps⟩ := h.compileFor verbose config project expression
    refine ⟨runsTo_run hexpression hcompiles, ?_⟩
    obtain ⟨g, hleft⟩ := run_left hexpression desk config project
    rw [Invocation.settles?, if_neg hhelp, Invocation.run, hleft]
    exact ⟨hkeeps.standard, hkeeps.project⟩

/-- **All commands** leave the desk in order. -/
theorem Desk.KeepsTo.after (h : desk.KeepsTo none) (earlier : List Invocation) :
    (desk.after earlier).KeepsTo (projectLimits? earlier) := by
  induction earlier using List.reverseRecOn with
  | nil => exact h
  | append_singleton earlier i ih =>
    -- limits that are settled come first, so that the last command can only settle those that are missing
    rw [Desk.after_concat, projectLimits?_concat]
    exact (ih.run i).2

/--
**The project's compiler is fixed by the first load that succeeds.**

Let a process begin with its standard compiler under the standard limits, and without a compiler of the
project. After any commands, with or without settings documents of their own, however the project's document
changes in between and however the commands end, there is a compiler of the project if and only if one of
the commands has settled its limits, and it is under those that the first of them loaded.

The next command works under the limits of the document that it names, or else under the settled ones, or,
if there are none, under those of the project's document as it is now. A command that names a document leaves
the project's compiler as it is; one that names none compiles with that very compiler, if there is one.
-/
theorem project_settled {start : Desk} (hstandard : Reachable .standard start.standard)
    (hproject : start.project = none) (earlier : List Invocation) (i : Invocation) :
    let desk := start.after earlier
    desk.projectCompiler?.map (·.limits) = projectLimits? earlier ∧
      RunsTo (limitsFor (projectLimits? earlier) i.config i.project) i.command (i.run desk).1 ∧
      (∀ document, i.config = some document → (i.run desk).2.projectCompiler? = desk.projectCompiler?) ∧
      ∀ c expression verbose, i.config = none → i.command.expression? = some (expression, verbose) →
        desk.projectCompiler? = some c →
          (i.run desk).2.projectCompiler? = some (c.compile (.text expression)).2.1 := by
  have hdesk := (Desk.keepsTo_none hstandard hproject).after earlier
  obtain ⟨config, project, command⟩ := i
  refine ⟨hdesk.map_limits, (hdesk.run _).1, ?_, ?_⟩
  · intro document hdocument
    subst hdocument
    rcases command.eq_help_or_expression? with rfl | ⟨-, expression, verbose, hexpression⟩
    · rfl
    · obtain ⟨g, hleft⟩ := run_left hexpression (start.after earlier) (some document) project
      rw [Invocation.run, hleft]
      exact projectCompiler?_compileFor_of_config _ verbose document project expression
  · intro c expression verbose hnone hexpression hc
    subst hnone
    obtain ⟨g, hleft⟩ := run_left hexpression (start.after earlier) none project
    rw [Invocation.run, hleft]
    exact projectCompiler?_compileFor_of_project hc verbose project expression

end Process

/-- The limits of the project are settled by a command that fails to compile, after one that could not load
them, and hold for a command that finds other ones: there it would be one die too many. -/
theorem project_settled_failing :
    letI : Validator := .lenient fun _ => []
    letI : Console := .terminal
    let earlier : List Invocation := [⟨none, ⟨"config.toml", .directory⟩, .check { expression := "2d6" }⟩,
      ⟨none, ⟨"config.toml", .document "[dice]\nmax_dice = 3\n"⟩, .check { expression := "4d6" }⟩]
    let next : Invocation := ⟨none, ⟨"config.toml", .document "[dice]\nmax_dice = 9\n"⟩, .roll { expression := "4d6" }⟩
    let outcome := (next.run (Desk.after {} earlier)).1
    Reachable .standard (Desk.standard {}) ∧ Desk.project {} = none ∧
      (Desk.after {} earlier).projectCompiler?.map (·.limits) = some { maxDice := 3 } ∧
      RunsTo (.ok { maxDice := 3 }) next.command outcome ∧ outcome.succeeded = false ∧
      outcome.output = ["Error: Dice pool is too large: 4 > 3"] := by
  intro earlier next outcome
  let _ : Validator := .lenient fun _ => []
  let _ : Console := .terminal
  have hstandard : Reachable .standard (Desk.standard {}) := .init 0
  have hproject : Desk.project {} = none := rfl
  have hsettled : projectLimits? earlier = some { maxDice := 3 } := by
    decide +kernel
  have hrefused : Program.ofExpression { maxDice := 3 } (.text "4d6") =
      .error (.chunk (.tooManyDice 4 3)) := by
    decide +kernel
  have hplain : IsPlain "Dice pool is too large: 4 > 3".toList :=
    IsPlain.append (.of_all (by decide : "Dice pool is too large".toList.all isOrdinary = true))
      (.colon (.of_all (by decide : "4 > 3".toList.all isOrdinary = true)))
  have hlines : errorLines (CompileError.chunk (.tooManyDice 4 3)).message = ["Error: Dice pool is too large: 4 > 3"] :=
    have := lawfulConsole_terminal
    (shows_errorLines hplain).whole trivial
  obtain ⟨hlimits, hruns, -, -⟩ := project_settled hstandard hproject earlier next
  rw [hsettled] at hlimits hruns
  -- four dice are not compiled where three are the most, so that all the command does is to say so
  have hstops : ∃ notes, outcome = compileOutcome false notes (.chunk (.tooManyDice 4 3)) := by
    have hruns : RunsTo (.ok { maxDice := 3 }) next.command outcome := hruns
    generalize outcome = reached at hruns
    cases hruns with
    | rollStopped hcompiles =>
      cases hcompiles with
      | failed notes hprogram =>
        rw [hrefused] at hprogram
        cases hprogram
        exact ⟨notes, rfl⟩
    | rolled _ _ hcompiles =>
      cases hcompiles with
      | compiled hprogram =>
        rw [hrefused] at hprogram
        cases hprogram
  obtain ⟨notes, hstops⟩ := hstops
  refine ⟨hstandard, hproject, hlimits, hruns, ?_, ?_⟩
  · rw [hstops]
    rfl
  · rw [hstops]
    exact hlines

end DiceNotation.CommandLine
