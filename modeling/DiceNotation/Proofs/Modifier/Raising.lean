import Mathlib.Data.List.Perm.Basic
import DiceNotation.Proofs.Modifier.Picking

/-!
# Higher dice

If no die of a pool is lower than the one in its place in another pool, then no die that a keep or a drop leaves
is lower than the one in its place there. To raise a die may put the whole pool into another order, so that
other dice are kept; but the pools in order compare place by place as well.
-/

namespace DiceNotation

/-- A die put into its place keeps below dice in order, if it is below the first of them. -/
theorem forall₂_orderedInsert {die first : Int} {dice others : List Int} (hdie : die ≤ first)
    (hsorted : (first :: others).Pairwise (· ≤ ·)) (h : List.Forall₂ (· ≤ ·) dice others) :
    List.Forall₂ (· ≤ ·) (dice.orderedInsert (· ≤ ·) die) (first :: others) := by
  induction h generalizing first with
  | nil => exact .cons hdie .nil
  | @cons low high dice others hlow hrest ih =>
    obtain ⟨hfirst, hothers⟩ := List.pairwise_cons.mp hsorted
    rw [List.orderedInsert_cons]
    by_cases hplace : die ≤ low
    · rw [if_pos hplace]
      exact .cons hdie (.cons hlow hrest)
    · -- the die is passed on, and what stands in the first place now is even lower
      rw [if_neg hplace]
      have hhigh : first ≤ high := hfirst high List.mem_cons_self
      have hbelow : low ≤ first := by omega
      have hnext : die ≤ high := by omega
      exact .cons hbelow (ih hnext hothers)

/-- Dice put in order keep below dice that are in order already. -/
theorem forall₂_insertionSort {dice others : List Int} (hsorted : others.Pairwise (· ≤ ·))
    (h : List.Forall₂ (· ≤ ·) dice others) : List.Forall₂ (· ≤ ·) (dice.insertionSort (· ≤ ·)) others := by
  induction h with
  | nil => exact .nil
  | cons hdie _ ih => exact forall₂_orderedInsert hdie hsorted (ih hsorted.of_cons)

variable {rolls higher : List Int}

/-- **Order keeps dice below others.** -/
theorem forall₂_ascending (h : List.Forall₂ (· ≤ ·) rolls higher) :
    List.Forall₂ (· ≤ ·) (ascending rolls) (ascending higher) := by
  -- put the higher dice in order, and each of the others goes with the one above it
  obtain ⟨dice, hdice, hperm⟩ := List.perm_comp_forall₂ (perm_ascending higher) h.flip
  rw [← ascending_eq_of_perm hperm, ascending_eq_insertionSort dice]
  exact forall₂_insertionSort (pairwise_ascending higher) hdice.flip

theorem forall₂_descending (h : List.Forall₂ (· ≤ ·) rolls higher) :
    List.Forall₂ (· ≤ ·) (descending rolls) (descending higher) := by
  rw [descending_eq_reverse_ascending, descending_eq_reverse_ascending]
  exact List.forall₂_reverse_iff.mpr (forall₂_ascending h)

theorem Modifier.forall₂_picked (m : Modifier) (n : Nat) (h : List.Forall₂ (· ≤ ·) rolls higher) :
    List.Forall₂ (· ≤ ·) (m.picked n rolls) (m.picked n higher) := by
  cases m with
  | keepLowest => exact List.forall₂_take n (forall₂_ascending h)
  | dropHighest => exact List.forall₂_drop n (forall₂_descending h)
  | dropLowest => exact List.forall₂_drop n (forall₂_ascending h)
  | reroll | twice | explode | keepHighest => exact List.forall₂_take n (forall₂_descending h)

end DiceNotation
