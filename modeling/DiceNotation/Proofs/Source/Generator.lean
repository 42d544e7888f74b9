import DiceNotation.Proofs.Term.Budget
import DiceNotation.Proofs.Term.Safety
import DiceNotation.Source.Script

/-!
# The generator as a source

The generator answers for every die that has a face, and shows one of its faces. It does so whether it is
rolled with as it is, or through a script that hands on its answers: rolls come to the same, and leave the
generator in the same state.
-/

namespace DiceNotation

namespace Twister

/-- A number below a bound is below it, also where all attempts are in vain. -/
theorem below_lt {bound : Nat} (hbound : 0 < bound) (tries : Nat) (g : Twister) : (below bound tries g).1 < bound := by
  induction tries generalizing g with
  | zero => exact hbound
  | succ tries ih =>
    unfold below
    rcases g.bits (bound.log2 + 1) with ⟨value, left⟩
    dsimp only
    by_cases h : value < bound
    · rw [if_pos h]
      exact h
    · rw [if_neg h]
      exact ih left

/-- A die that has a face shows one of them. -/
theorem exists_source_eq {faces : Int} (h : 1 ≤ faces) (g : Twister) :
    ∃ value left, source faces g = (.ok value, left) ∧ 1 ≤ value ∧ value ≤ faces := by
  have hbound : 0 < faces.toNat := by omega
  have hlt := below_lt hbound attempts g
  unfold source
  rw [if_neg (by omega)]
  -- the attempts are too many to be unfolded
  generalize below faces.toNat attempts g = drawn at hlt
  obtain ⟨value, left⟩ := drawn
  dsimp only at hlt
  exact ⟨_, left, rfl, by omega, by omega⟩

/-- The generator answers for every die that has a face. -/
theorem source_answers : source.Answers := by
  intro faces hfaces g
  obtain ⟨value, left, hanswer, -, -⟩ := exists_source_eq hfaces g
  exact ⟨value, left, hanswer⟩

/-- The generator shows one of the faces. -/
theorem source_showsFaces : source.ShowsFaces := by
  intro faces g value left h
  by_cases hfaces : 1 ≤ faces
  · obtain ⟨shown, left', hanswer, hleast, hmost⟩ := exists_source_eq hfaces g
    rw [hanswer] at h
    cases h
    exact ⟨hleast, hmost⟩
  · unfold source at h
    rw [if_pos (by omega)] at h
    cases h

end Twister

/-- **A script on the generator** is the generator: a roll comes to the same after the same calls, and leaves
the generator in the same state. -/
theorem Scripted.run_generator {α : Type} (r : Roll α) (g : Twister) (made : Nat) :
    ∃ made', r.run Scripted.source ⟨.generator g, made⟩ =
      { outcome := (r.run Twister.source g).outcome
        calls := (r.run Twister.source g).calls
        state := ⟨.generator (r.run Twister.source g).state, made'⟩ } := by
  induction r generalizing g made with
  | done a => exact ⟨made, rfl⟩
  | stop e => exact ⟨made, rfl⟩
  | ask faces next ih =>
    have hscript : Scripted.source faces ⟨.generator g, made⟩ =
        ((Twister.source faces g).1, ⟨.generator (Twister.source faces g).2, made + 1⟩) := rfl
    rw [Roll.run_ask, Roll.run_ask, hscript]
    rcases Twister.source faces g with ⟨answer, left⟩
    cases answer with
    | error failure => exact ⟨made + 1, rfl⟩
    | ok value =>
      obtain ⟨made', hrun⟩ := ih value left (made + 1)
      refine ⟨made', ?_⟩
      dsimp only
      rw [hrun]

end DiceNotation
