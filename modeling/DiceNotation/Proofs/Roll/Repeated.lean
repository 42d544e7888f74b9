import Mathlib.Data.ENat.Lattice
import DiceNotation.Source

/-!
# Rolls again and again

A roll may be run again and again on one source. Each run begins in the state in which the one before has
left the source. The streak is the number of runs that go well before the first one that fails, and it has no
end if none ever does.

The streak is a least number, not a computation: whether a roll ever fails on a source cannot be found out
by running it. What is known after some runs is whether the streak is that long.
-/

namespace DiceNotation.Roll

variable {α σ : Type} (r : Roll α) (source : Source σ) (state : σ)

/-- The runs of a roll, one after the other; the first one is number zero. -/
def nth : Nat → Report σ α
  | 0 => r.run source state
  | n + 1 => r.run source (nth n).state

/-- The number of runs that go well before the first one that fails. -/
noncomputable def streak : ℕ∞ :=
  ⨅ n ∈ {n | ∃ e, (r.nth source state n).outcome = .error e}, (n : ℕ∞)

variable {r source state}

@[simp] theorem nth_zero : r.nth source state 0 = r.run source state := rfl

/-- All runs but the first are the runs from where the first one has ended. -/
theorem nth_succ (n : Nat) : r.nth source state (n + 1) = r.nth source (r.run source state).state n := by
  induction n with
  | zero => rfl
  | succ n ih =>
    rw [nth, ih]
    rfl

/-! ## The length of a streak -/

/-- A streak is at least as long as the runs that have gone well. -/
theorem le_streak_iff {n : Nat} :
    (n : ℕ∞) ≤ r.streak source state ↔ ∀ i < n, ∃ a, (r.nth source state i).outcome = .ok a := by
  simp only [streak, le_iInf₂_iff, Nat.cast_le, Set.mem_ofPred_eq]
  constructor
  · intro h i hi
    cases houtcome : (r.nth source state i).outcome with
    | ok a => exact ⟨a, rfl⟩
    | error e => exact absurd (h i ⟨e, houtcome⟩) (Nat.not_le.mpr hi)
  · intro h i hfailed
    obtain ⟨e, he⟩ := hfailed
    by_contra hi
    obtain ⟨a, ha⟩ := h i (Nat.not_le.mp hi)
    rw [he] at ha
    cases ha

/-- The runs of a streak go well. -/
theorem exists_ok_of_lt_streak {n : Nat} (h : (n : ℕ∞) < r.streak source state) :
    ∃ a, (r.nth source state n).outcome = .ok a := by
  have hnext : ((n + 1 : Nat) : ℕ∞) ≤ r.streak source state := by
    rw [Nat.cast_add_one]
    exact Order.add_one_le_of_lt h
  exact le_streak_iff.mp hnext n (Nat.lt_succ_self n)

/-- A streak ends with the first run if that one fails. -/
theorem streak_eq_zero {e : RollError} (h : (r.run source state).outcome = .error e) :
    r.streak source state = 0 := by
  by_contra hne
  obtain ⟨a, ha⟩ := exists_ok_of_lt_streak (n := 0) (pos_iff_ne_zero.mpr hne)
  rw [nth_zero, h] at ha
  cases ha

/-- A streak goes on from where the first run has ended, if that one goes well. -/
theorem streak_eq_succ {a : α} (h : (r.run source state).outcome = .ok a) :
    r.streak source state = r.streak source (r.run source state).state + 1 := by
  refine ENat.eq_of_forall_natCast_le_iff fun n => ?_
  cases n with
  | zero => simp
  | succ n =>
    have hfirst : ∃ a, (r.nth source state 0).outcome = .ok a := ⟨a, h⟩
    rw [Nat.cast_add_one, ENat.add_le_add_iff_right ENat.one_ne_top, ← Nat.cast_add_one, le_streak_iff,
      le_streak_iff, Nat.forall_lt_succ_left]
    simp only [hfirst, true_and, nth_succ]

end DiceNotation.Roll
