import DiceNotation.Source.Twister

/-!
# Scripted sources

Sources whose answers are laid down: one value again and again, several in turn, a list that runs out,
lists by the faces asked for, a simple congruential rule, a seeded generator, or any other answer to the
faces that were asked for so far.
-/

namespace DiceNotation

/-- How a source answers next. -/
inductive Script where
  | fixed (value : Int)
  /-- The values in turn, from the one at `next` on. -/
  | cycle (values : List Int) (next : Nat)
  | sequence (values : List Int)
  /-- Lists of values under the faces as they are written. -/
  | byFaces (lists : List (String × List Int))
  | congruential (state : Int)
  | generator (g : Twister)
  /-- Any reply to the faces asked for, the last ones first; `asked` are those of the calls so far. -/
  | replying (reply : List Int → Except SourceFailure Int) (asked : List Int)

/-- A scripted source: its script, and the number of calls so far. -/
structure Scripted where
  script : Script
  calls : Nat := 0

namespace Scripted

/-- The lists with the first value under a key taken. -/
def dropFirst (lists : List (String × List Int)) (key : String) : List (String × List Int) :=
  lists.map fun entry => if entry.1 == key then (entry.1, entry.2.drop 1) else entry

/-- The next state of the congruential rule; it is never negative. -/
def congruentialStep (state : Int) : Int := (state * 1103515245 + 12345) % Nat.pow 2 31

/-- The answer of a script to a call with the given number. -/
def answer (script : Script) (call : Nat) (faces : Int) : Except SourceFailure Int × Script :=
  match script with
  | .fixed value => (.ok value, script)
  | .cycle values next =>
    match values[next % values.length]? with
    | some value => (.ok value, .cycle values (next + 1))
    | none => (.error (.exhausted call), script)
  | .sequence [] => (.error (.exhausted call), script)
  | .sequence (value :: values) => (.ok value, .sequence values)
  | .byFaces lists =>
    match lists.lookup (toString faces) with
    | some (value :: _) => (.ok value, .byFaces (dropFirst lists (toString faces)))
    | _ => (.error (.exhaustedFor faces), script)
  | .congruential state =>
    let state := congruentialStep state
    (.ok (Int.fmod (state / 65536) faces + 1), .congruential state)
  | .generator g =>
    match Twister.source faces g with
    | (answer, g) => (answer, .generator g)
  | .replying reply asked => (reply (faces :: asked), .replying reply (faces :: asked))

/-- Dice rolled as the script says. -/
def source : Source Scripted := fun faces s =>
  match answer s.script (s.calls + 1) faces with
  | (answer, script) => (answer, ⟨script, s.calls + 1⟩)

end Scripted

/-! ## Any source -/

namespace Source

variable {σ α : Type}

/-- The state of a source after calls for dice, the last ones first. -/
def stateAfter (source : Source σ) (state : σ) : List Int → σ
  | [] => state
  | faces :: before => (source faces (stateAfter source state before)).2

/-- What a source gives for the first of some faces, after calls for the others. -/
def reply (source : Source σ) (state : σ) : List Int → Except SourceFailure Int
  | [] => .error (.exhausted 0)
  | faces :: before => (source faces (stateAfter source state before)).1

/-- **Any source is given by a script.** A roll on the script comes to the same after any calls, and leaves the
script of what it leaves of the source. -/
theorem run_replying (source : Source σ) (state : σ) (r : Roll α) (asked : List Int) (calls : Nat) :
    ∃ left calls',
      (r.run source (stateAfter source state asked)).state = stateAfter source state left ∧
      r.run Scripted.source ⟨.replying (reply source state) asked, calls⟩ =
        { outcome := (r.run source (stateAfter source state asked)).outcome
          calls := (r.run source (stateAfter source state asked)).calls
          state := ⟨.replying (reply source state) left, calls'⟩ } := by
  induction r generalizing asked calls with
  | done a => exact ⟨asked, calls, rfl, rfl⟩
  | stop e => exact ⟨asked, calls, rfl, rfl⟩
  | ask faces next ih =>
    have hsource : source faces (stateAfter source state asked) =
        (reply source state (faces :: asked), stateAfter source state (faces :: asked)) := rfl
    have hscript : Scripted.source faces ⟨.replying (reply source state) asked, calls⟩ =
        (reply source state (faces :: asked),
          ⟨.replying (reply source state) (faces :: asked), calls + 1⟩) := rfl
    rw [Roll.run_ask, Roll.run_ask, hsource, hscript]
    cases reply source state (faces :: asked) with
    | error failure => exact ⟨faces :: asked, calls + 1, rfl, rfl⟩
    | ok value =>
      obtain ⟨left, calls', hstate, hrun⟩ := ih value (faces :: asked) (calls + 1)
      refine ⟨left, calls', hstate, ?_⟩
      dsimp only
      rw [hrun]

end Source

end DiceNotation
