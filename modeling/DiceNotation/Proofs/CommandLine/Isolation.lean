import DiceNotation.Proofs.CommandLine.Project

/-!
# Seeded rolls are on their own

What a command prints on the output, and how it ends, depends on its limits, on the command itself and, for a
roll without a seed, on the shared generator. Nothing else of what earlier commands leave shows: neither what
the compilers have kept nor which compiler is the project's. A roll with a seed has a generator of its own. So
it does not depend on the shared one, and leaves it as it was.

Two desks are compared throughout, which may have come about in different ways. On the error stream they
may differ: a verbose command notes what it compiles, but not what it finds.
-/

namespace DiceNotation.CommandLine

open Compiler (Reachable)

variable {desk other : Desk} {limits? others? : Option Limits}

/-- What is seen of an outcome without the error stream. -/
def Outcome.seen (o : Outcome) : Outcome := { o with errors := [] }

@[simp] theorem Outcome.seen_afterErrors (errors : List String) (o : Outcome) :
    (o.afterErrors errors).seen = o.seen := rfl

/-- The command rolls on the shared generator. -/
def Command.DrawsShared : Command → Prop
  | .roll command => command.seed = none
  | .check _ | .help => False

/-- The limits of the project do not depend on the generator. -/
theorem Desk.KeepsTo.withGenerator (h : desk.KeepsTo limits?) (g : Twister) :
    Desk.KeepsTo limits? { desk with generator := g } :=
  ⟨h.standard, h.project⟩

/-! ## Evaluators of one program -/

theorem chunkTable_eq_of_program_eq {e e' : Evaluator} (h : e.program = e'.program) :
    chunkTable e = chunkTable e' := by
  have hexpression : e.expression = e'.expression := congrArg (·.expression) h
  have hchunks : e.chunks = e'.chunks := congrArg (·.chunks) h
  have hkinds : e.terms.map (fun t => kindName t.value) = e'.terms.map fun t => kindName t.value := by
    have hterms : e.terms.map (·.value) = e'.terms.map (·.value) := congrArg (·.terms) h
    have hboth := congrArg (List.map kindName) hterms
    rwa [List.map_map, List.map_map] at hboth
  rw [chunkTable, chunkTable, hexpression, hchunks, hkinds]

theorem rollLines_eq_of_program_eq [Console] {e e' : Evaluator} (h : e.program = e'.program)
    (withBreakdown verbose : Bool) (times : Nat) (g : Twister) :
    rollLines e withBreakdown verbose times g = rollLines e' withBreakdown verbose times g := by
  have hroll : e.roll = e'.roll := congrArg (fun p : Program => rollTerms p.terms) h
  have hexpression : e.expression = e'.expression := congrArg (·.expression) h
  induction times generalizing g with
  | zero => rfl
  | succ times ih => simp only [rollLines, hroll, hexpression, ih]

/-! ## Compiling -/

/-- Two results of compiling for a command that are seen to be the same. -/
inductive SeenAlike : Except Outcome Evaluator → Except Outcome Evaluator → Prop where
  | stopped {o o' : Outcome} : o.seen = o'.seen → SeenAlike (.error o) (.error o')
  | compiled {e e' : Evaluator} : e.program = e'.program → SeenAlike (.ok e) (.ok e')

theorem seen_compileOutcome [Console] (verbose : Bool) (notes more : List Note) (e : CompileError) :
    (compileOutcome verbose notes e).seen = (compileOutcome verbose more e).seen := by
  unfold compileOutcome
  split <;> rfl

section Process

variable [Validator]

/-- The limits under which a command works; one that only asks for help works under none. -/
def Invocation.worksUnder (i : Invocation) (project? : Option Limits) : Option (Except LoadError Limits) :=
  if i.command = .help then none else some (limitsFor project? i.config i.project)

theorem Invocation.worksUnder_of_ne_help {i : Invocation} (hi : i.command ≠ .help) (project? : Option Limits) :
    i.worksUnder project? = some (limitsFor project? i.config i.project) := by
  rw [worksUnder, if_neg hi]

variable [Console]

theorem seen_loadOutcome (verbose : Bool) (notes more : List Note) (e : LoadError) :
    (loadOutcome verbose notes e).seen = (loadOutcome verbose more e).seen := by
  cases e <;> rfl

/-- Compiling an expression under the same limits comes to the same. -/
theorem CompilesTo.seenAlike {verbose : Bool} {expression : String} {loaded : Except LoadError Limits}
    {result result' : Except Outcome Evaluator} (h : CompilesTo verbose expression loaded result)
    (h' : CompilesTo verbose expression loaded result') : SeenAlike result result' := by
  cases h with
  | unloaded notes =>
    cases h' with
    | unloaded more => exact .stopped (seen_loadOutcome _ _ _ _)
  | failed notes hprogram =>
    cases h' with
    | failed more hprogram' =>
      rw [hprogram] at hprogram'
      cases hprogram'
      exact .stopped (seen_compileOutcome _ _ _ _)
    | compiled hprogram' =>
      rw [hprogram] at hprogram'
      cases hprogram'
  | compiled hprogram =>
    cases h' with
    | failed more hprogram' =>
      rw [hprogram] at hprogram'
      cases hprogram'
    | compiled hprogram' =>
      rw [hprogram] at hprogram'
      exact .compiled (Except.ok.inj hprogram')

/-- Compiling does not touch the shared generator. -/
theorem compileFor_generator (desk : Desk) (verbose : Bool) (config : Option Document) (project : Document)
    (expression : String) :
    (compileFor desk verbose config project expression).2.1.generator = desk.generator := by
  have hchoose : (chooseCompiler desk config project).2.1.generator = desk.generator := by
    unfold chooseCompiler
    split
    · split <;> rfl
    · rfl
    · rfl
    · split
      · rfl
      · split <;> rfl
  have hput : ∀ (d : Desk) (c : Compiler) (place : Place), (d.putBack c place).generator = d.generator := by
    intro d c place
    cases place <;> rfl
  unfold compileFor
  split
  · next heq => rw [heq] at hchoose; exact hchoose
  · next heq =>
    rw [heq] at hchoose
    split
    · exact (hput _ _ _).trans hchoose
    · exact (hput _ _ _).trans hchoose

/-! ## Rolling and checking -/

variable {config config' : Option Document} {project project' : Document}

/-- A roll of what compiles alike is seen to be the same, if it has a seed or the generators are the same. -/
theorem seen_runRoll {command : RollCommand}
    (h : SeenAlike (compileFor desk command.verbose config project command.expression).1
      (compileFor other command.verbose config' project' command.expression).1)
    (hgenerator : command.seed = none → desk.generator = other.generator) :
    (runRoll desk config project command).1.seen = (runRoll other config' project' command).1.seen ∧
      (desk.generator = other.generator → (runRoll desk config project command).2.generator =
        (runRoll other config' project' command).2.generator) := by
  have hdesk := compileFor_generator desk command.verbose config project command.expression
  have hother := compileFor_generator other command.verbose config' project' command.expression
  unfold runRoll
  rcases hresult : compileFor desk command.verbose config project command.expression with ⟨result, next, notes⟩
  rcases hresult' : compileFor other command.verbose config' project' command.expression with
    ⟨result', next', notes'⟩
  rw [hresult] at h hdesk
  rw [hresult'] at h hother
  dsimp only at h hdesk hother
  have hnext : desk.generator = other.generator → next.generator = next'.generator := by
    intro hsame
    rw [hdesk, hother, hsame]
  cases h with
  | stopped hseen => exact ⟨hseen, hnext⟩
  | compiled hprogram =>
    dsimp only
    cases hseed : command.seed with
    | some seed =>
      refine ⟨?_, hnext⟩
      rw [Outcome.seen_afterErrors, Outcome.seen_afterErrors, rollLines_eq_of_program_eq hprogram]
    | none =>
      -- the one case in which the shared generator is drawn from
      dsimp only
      rw [hnext (hgenerator hseed), rollLines_eq_of_program_eq hprogram]
      exact ⟨rfl, fun _ => rfl⟩

theorem seen_runCheck {command : CheckCommand}
    (h : SeenAlike (compileFor desk false config project command.expression).1
      (compileFor other false config' project' command.expression).1) :
    (runCheck desk config project command).1.seen = (runCheck other config' project' command).1.seen ∧
      (desk.generator = other.generator → (runCheck desk config project command).2.generator =
        (runCheck other config' project' command).2.generator) := by
  have hdesk := compileFor_generator desk false config project command.expression
  have hother := compileFor_generator other false config' project' command.expression
  unfold runCheck
  rcases hresult : compileFor desk false config project command.expression with ⟨result, next, notes⟩
  rcases hresult' : compileFor other false config' project' command.expression with ⟨result', next', notes'⟩
  rw [hresult] at h hdesk
  rw [hresult'] at h hother
  dsimp only at h hdesk hother
  have hnext : desk.generator = other.generator → next.generator = next'.generator := by
    intro hsame
    rw [hdesk, hother, hsame]
  cases h with
  | stopped hseen => exact ⟨hseen, hnext⟩
  | compiled hprogram =>
    refine ⟨?_, hnext⟩
    simp only [Outcome.seen, chunkTable_eq_of_program_eq hprogram]

/-- A roll with a seed leaves the shared generator as it was. -/
theorem runRoll_generator_of_seed {command : RollCommand} {seed : Int} (hseed : command.seed = some seed)
    (desk : Desk) (config : Option Document) (project : Document) :
    (runRoll desk config project command).2.generator = desk.generator := by
  have hdesk := compileFor_generator desk command.verbose config project command.expression
  unfold runRoll
  rcases hresult : compileFor desk command.verbose config project command.expression with ⟨result, next, notes⟩
  rw [hresult] at hdesk
  cases result with
  | error outcome => exact hdesk
  | ok e =>
    rw [hseed]
    exact hdesk

/-! ## Commands -/

/-- **A command on two desks.** Under the same limits it is seen to come to the same, if it does not draw from
the shared generator or finds it in the same state. -/
theorem seen_run (h : desk.KeepsTo limits?) (h' : other.KeepsTo others?) {i j : Invocation}
    (hcommand : i.command = j.command) (hlimits : i.worksUnder limits? = j.worksUnder others?)
    (hgenerator : i.command.DrawsShared → desk.generator = other.generator) :
    (i.run desk).1.seen = (j.run other).1.seen ∧
      (desk.generator = other.generator → (i.run desk).2.generator = (j.run other).2.generator) := by
  obtain ⟨config, project, command⟩ := i
  obtain ⟨config', project', command'⟩ := j
  dsimp only at hcommand hgenerator
  subst hcommand
  have halike : ∀ expression verbose, command.expression? = some (expression, verbose) →
      SeenAlike (compileFor desk verbose config project expression).1
        (compileFor other verbose config' project' expression).1 := by
    intro expression verbose hexpression
    have hhelp : command ≠ .help := by
      rintro rfl
      cases hexpression
    rw [Invocation.worksUnder_of_ne_help hhelp, Invocation.worksUnder_of_ne_help hhelp,
      Option.some.injEq] at hlimits
    dsimp only at hlimits
    have hcompiles := (h.compileFor verbose config project expression).1
    rw [hlimits] at hcompiles
    exact hcompiles.seenAlike (h'.compileFor verbose config' project' expression).1
  cases command with
  | help => exact ⟨rfl, fun hsame => hsame⟩
  | roll command => exact seen_runRoll (halike _ _ rfl) hgenerator
  | check command => exact seen_runCheck (halike _ _ rfl)

/-! ## One command after the other -/

/-- What is seen of commands. -/
def Desk.shows (desk : Desk) : List Invocation → List Outcome
  | [] => []
  | i :: rest => (i.run desk).1.seen :: (i.run desk).2.shows rest

/-- The limits under which commands work one after the other, `limits?` being those of the project before. -/
def limitsAlong (limits? : Option Limits) : List Invocation → List (Option (Except LoadError Limits))
  | [] => []
  | i :: rest => i.worksUnder limits? :: limitsAlong (limits?.or i.settles?) rest

/-- **Commands on two desks** are seen to come to the same, if their limits and the shared generators are the
same. -/
theorem Desk.shows_eq (h : desk.KeepsTo limits?) (h' : other.KeepsTo others?)
    (hgenerator : desk.generator = other.generator) {commands : List Invocation}
    (hlimits : limitsAlong limits? commands = limitsAlong others? commands) :
    desk.shows commands = other.shows commands := by
  induction commands generalizing desk other limits? others? with
  | nil => rfl
  | cons i rest ih =>
    obtain ⟨hfirst, hrest⟩ := List.cons.inj hlimits
    obtain ⟨hseen, hnext⟩ := seen_run h h' rfl hfirst fun _ => hgenerator
    rw [shows, shows, hseen, ih (h.run i).2 (h'.run i).2 (hnext hgenerator) hrest]

/--
**Seeded rolls are on their own.**

Let any commands have been run in a process, and let the shared generator be in any state. A roll with a seed
prints the same on the output and ends in the same way as in a new process under the same limits, whatever
its shared generator. It leaves the shared generator as it was, so that it does not show in any later commands
that work under the same limits with it and without it.
-/
theorem seeded_roll_isolated {start : Desk} (hstandard : Reachable .standard start.standard)
    (hproject : start.project = none) (earlier : List Invocation) (shared new : Twister) {i j : Invocation}
    {command : RollCommand} {seed : Int} (hi : i.command = .roll command) (hj : j.command = .roll command)
    (hseed : command.seed = some seed)
    (hlimits : limitsFor (projectLimits? earlier) i.config i.project = limitsFor none j.config j.project) :
    let desk : Desk := { start.after earlier with generator := shared }
    (i.run desk).1.seen = (j.run { generator := new }).1.seen ∧ (i.run desk).2.generator = shared ∧
      ∀ later,
        limitsAlong (projectLimits? (earlier ++ [i])) later = limitsAlong (projectLimits? earlier) later →
        (i.run desk).2.shows later = desk.shows later := by
  intro desk
  have hdesk : desk.KeepsTo (projectLimits? earlier) :=
    ((Desk.keepsTo_none hstandard hproject).after earlier).withGenerator shared
  have hnew : Desk.KeepsTo none { generator := new } := Desk.keepsTo_none (.init 0) rfl
  have hleft : (i.run desk).2.generator = shared := by
    rw [Invocation.run, hi]
    exact runRoll_generator_of_seed hseed desk i.config i.project
  refine ⟨?_, hleft, ?_⟩
  · refine (seen_run hdesk hnew (hi.trans hj.symm) ?_ ?_).1
    · have hroll : Command.roll command ≠ .help := by
        rintro ⟨⟩
      rw [Invocation.worksUnder_of_ne_help (hi ▸ hroll), Invocation.worksUnder_of_ne_help (hj ▸ hroll), hlimits]
    · intro hdraws
      rw [hi, Command.DrawsShared, hseed] at hdraws
      cases hdraws
  · intro later hlater
    have hnext := (hdesk.run i).2
    rw [← projectLimits?_concat] at hnext
    exact Desk.shows_eq hnext hdesk hleft hlater

end Process

/-- A seeded roll with the standard limits, after a command that left its chunks in the standard compiler and
one that failed, is seen to be the same as in a new process that finds no settings. -/
theorem seeded_roll_isolated_settled :
    letI : Validator := .lenient fun _ => []
    letI : Console := .terminal
    let nothing : Document := ⟨"config.toml", .missing⟩
    let earlier : List Invocation := [⟨none, nothing, .roll { expression := "2d6+1", times := 3 }⟩,
      ⟨some ⟨"own.toml", .directory⟩, nothing, .check { expression := "x" }⟩]
    let command : RollCommand := { expression := "2D6 + 1", times := 2, breakdown := true, seed := some 7 }
    let i : Invocation := ⟨none, ⟨"config.toml", .directory⟩, .roll command⟩
    let j : Invocation := ⟨none, nothing, .roll command⟩
    let later : List Invocation := [⟨none, nothing, .roll { expression := "2d6+1" }⟩]
    let start : Desk := {}
    let desk : Desk := { start.after earlier with generator := ⟨#[], 0⟩ }
    Reachable .standard start.standard ∧ start.project = none ∧ i.command = .roll command ∧
      j.command = .roll command ∧ command.seed = some 7 ∧
      limitsFor (projectLimits? earlier) i.config i.project = limitsFor none j.config j.project ∧
      limitsAlong (projectLimits? (earlier ++ [i])) later = limitsAlong (projectLimits? earlier) later ∧
      (i.run desk).1.seen = (j.run { generator := ⟨#[1], 0⟩ }).1.seen ∧
      (i.run desk).2.generator = ⟨#[], 0⟩ ∧
      (i.run desk).2.shows later = desk.shows later := by
  intro nothing earlier command i j later start desk
  let _ : Validator := .lenient fun _ => []
  let _ : Console := .terminal
  have hstandard : Reachable .standard start.standard := .init 0
  have hlimits : limitsFor (projectLimits? earlier) i.config i.project =
      limitsFor none j.config j.project := rfl
  have hlater : limitsAlong (projectLimits? (earlier ++ [i])) later =
      limitsAlong (projectLimits? earlier) later := rfl
  obtain ⟨hseen, hleft, hshows⟩ :=
    seeded_roll_isolated hstandard rfl earlier ⟨#[], 0⟩ ⟨#[1], 0⟩ (i := i) (j := j) rfl rfl rfl hlimits
  refine ⟨hstandard, rfl, rfl, rfl, rfl, hlimits, hlater, hseen, ?_, ?_⟩
  · with_reducible exact hleft
  · with_reducible exact hshows later hlater

end DiceNotation.CommandLine
