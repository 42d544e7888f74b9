import DiceNotation.Source

/-!
# Rolls in pieces

Rolls for each of several items come apart where the items do, and a roll of two steps runs the second
one where the first one ended.
-/

namespace DiceNotation

/-- The source whose dice, moved by `offset`, show the values of an endless stream in turn. Its state is
the number of values drawn. -/
def Source.streaming (stream : Nat → Int) (offset : Int) : Source Nat :=
  fun _ drawn => (.ok (stream drawn - offset), drawn + 1)

/-- A report of a roll that began after some calls. -/
def Report.after {σ α : Type} (calls : List Int) (report : Report σ α) : Report σ α :=
  { report with calls := calls ++ report.calls }

/-- A report of a roll whose result is changed in the end. -/
def Report.map {σ α β : Type} (f : α → β) (report : Report σ α) : Report σ β :=
  ⟨report.outcome.map f, report.calls, report.state⟩

namespace Report

variable {σ α : Type}

@[simp] theorem after_mk (calls more : List Int) (outcome : Except RollError α) (state : σ) :
    Report.after calls ⟨outcome, more, state⟩ = ⟨outcome, calls ++ more, state⟩ := rfl

theorem after_after (calls more : List Int) (report : Report σ α) :
    (report.after more).after calls = report.after (calls ++ more) := by
  rw [Report.after, Report.after, Report.after, List.append_assoc]

end Report

namespace Roll

variable {α β σ : Type}

theorem mapEach_append (f : α → Roll β) (first second : List α) :
    mapEach f (first ++ second) =
      (mapEach f first).bind fun as => (mapEach f second).bind fun bs => .done (as ++ bs) := by
  induction first with
  | nil => simp
  | cons a rest ih =>
    rw [List.cons_append, mapEach_cons, mapEach_cons, ih]
    simp

/-- A first step that goes well is followed by the second one, on what it left. -/
theorem run_bind_of_ok {source : Source σ} {r : Roll α} {a : α} {calls : List Int} {state left : σ}
    (h : r.run source state = ⟨.ok a, calls, left⟩) (f : α → Roll β) :
    (r.bind f).run source state = ((f a).run source left).after calls := by
  rw [run_bind, h]
  rfl

/-- A first step that stops is followed by nothing. -/
theorem run_bind_of_error {source : Source σ} {r : Roll α} {e : RollError} {calls : List Int} {state left : σ}
    (h : r.run source state = ⟨.error e, calls, left⟩) (f : α → Roll β) :
    (r.bind f).run source state = ⟨.error e, calls, left⟩ := by
  rw [run_bind, h]

/-- To change the result of a roll takes no more calls. -/
theorem run_bind_done (source : Source σ) (r : Roll α) (f : α → β) (state : σ) :
    (r.bind fun a => .done (f a)).run source state = (r.run source state).map f := by
  rw [run_bind]
  rcases r.run source state with ⟨outcome, calls, left⟩
  cases outcome with
  | error e => rfl
  | ok a => simp [Report.map, Except.map]

/-- A die on a stream shows the next value of it. -/
theorem run_die_streaming (faces offset : Int) (stream : Nat → Int) (drawn : Nat) :
    (die faces offset).run (Source.streaming stream offset) drawn =
      ⟨.ok (stream drawn), [faces], drawn + 1⟩ := by
  rw [die, run_ask]
  simp [Source.streaming]

end Roll

end DiceNotation
