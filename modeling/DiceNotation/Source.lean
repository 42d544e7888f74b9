import DiceNotation.Roll

/-!
# Sources of dice

A source answers for a die with its faces from a state, and moves to a next state. `Roll.run` lets a
source answer all the questions of a roll; the report holds how the roll ended, the faces of every die
that was asked for, a failing call included, and the state in which the source is left.
-/

namespace DiceNotation

/-- A source with states `σ`: the answer for a die with the given faces, and the next state. -/
abbrev Source (σ : Type) := Int → σ → Except SourceFailure Int × σ

/-- A roll that has ended. -/
structure Report (σ α : Type) where
  outcome : Except RollError α
  calls : List Int
  state : σ

namespace Roll

variable {σ α β : Type} (source : Source σ)

/-- Runs a roll on a source after the calls `asked`, the last one first. -/
def runFrom : Roll α → List Int → σ → Report σ α
  | done a, asked, state => ⟨.ok a, asked.reverse, state⟩
  | stop e, asked, state => ⟨.error e, asked.reverse, state⟩
  | ask faces next, asked, state =>
    match source faces state with
    | (.ok value, state) => runFrom (next value) (faces :: asked) state
    | (.error failure, state) => ⟨.error (.source failure), (faces :: asked).reverse, state⟩

/-- Runs a roll on a source. -/
def run (r : Roll α) (state : σ) : Report σ α := r.runFrom source [] state

theorem runFrom_eq (r : Roll α) (asked : List Int) (state : σ) :
    r.runFrom source asked state =
      { r.run source state with calls := asked.reverse ++ (r.run source state).calls } := by
  induction r generalizing asked state with
  | done a => simp [run, runFrom]
  | stop e => simp [run, runFrom]
  | ask faces next ih =>
    rw [run, runFrom, runFrom]
    rcases source faces state with ⟨answer, state⟩
    cases answer with
    | error failure => simp
    | ok value => simp [ih value (faces :: asked), ih value [faces]]

@[simp] theorem run_done (a : α) (state : σ) :
    (done a).run source state = ⟨.ok a, [], state⟩ := rfl

@[simp] theorem run_stop (e : RollError) (state : σ) :
    (stop e : Roll α).run source state = ⟨.error e, [], state⟩ := rfl

/-- A roll that asks for a die goes on with the answer of the source, if there is one. -/
theorem run_ask (faces : Int) (next : Int → Roll α) (state : σ) :
    (ask faces next).run source state =
      match source faces state with
      | (.ok value, state) =>
        let report := (next value).run source state
        { report with calls := faces :: report.calls }
      | (.error failure, state) => ⟨.error (.source failure), [faces], state⟩ := by
  rw [run, runFrom]
  rcases source faces state with ⟨answer, state⟩
  cases answer with
  | error failure => rfl
  | ok value => exact runFrom_eq source (next value) [faces] state

/-- A roll in two steps runs the second step on what the first one left. -/
theorem run_bind (r : Roll α) (f : α → Roll β) (state : σ) :
    (r.bind f).run source state =
      match r.run source state with
      | ⟨.ok a, calls, state⟩ =>
        let report := (f a).run source state
        { report with calls := calls ++ report.calls }
      | ⟨.error e, calls, state⟩ => ⟨.error e, calls, state⟩ := by
  induction r generalizing state with
  | done a => rfl
  | stop e => rfl
  | ask faces next ih =>
    rw [ask_bind, run_ask, run_ask]
    cases source faces state with
    | mk answer state =>
      cases answer with
      | error failure => rfl
      | ok value =>
        simp only [ih]
        rcases (next value).run source state with ⟨outcome, calls, state⟩
        cases outcome <;> rfl

end Roll

end DiceNotation
