import Mathlib.Data.List.Sort
import DiceNotation.Modifier

/-!
# What keeps and drops pick

Keeps and drops leave so many dice at one end of the pool in order. To keep some at one end is to drop the
others at the other end, so each of them has an opposite, by which it can be expressed. The results are in
opposite order.
-/

namespace DiceNotation

/-! ## Dice in order -/

theorem pairwise_descending (rolls : List Int) : (descending rolls).Pairwise (· ≥ ·) :=
  List.pairwise_mergeSort' (· ≥ ·) rolls

theorem pairwise_ascending (rolls : List Int) : (ascending rolls).Pairwise (· ≤ ·) :=
  List.pairwise_mergeSort' (· ≤ ·) rolls

theorem perm_descending (rolls : List Int) : (descending rolls).Perm rolls := List.mergeSort_perm rolls _

theorem perm_ascending (rolls : List Int) : (ascending rolls).Perm rolls := List.mergeSort_perm rolls _

/-- There is one order of the dice, read from either end. -/
theorem descending_eq_reverse_ascending (rolls : List Int) : descending rolls = (ascending rolls).reverse := by
  have hperm : (descending rolls).Perm (ascending rolls).reverse :=
    (perm_descending rolls).trans ((perm_ascending rolls).symm.trans (List.reverse_perm _).symm)
  have hreverse : (ascending rolls).reverse.Pairwise (· ≥ ·) :=
    List.pairwise_reverse.mpr (pairwise_ascending rolls)
  exact hperm.eq_of_pairwise' (pairwise_descending rolls) hreverse

theorem descending_eq_insertionSort (rolls : List Int) : descending rolls = rolls.insertionSort (· ≥ ·) :=
  List.mergeSort_eq_insertionSort (· ≥ ·) rolls

theorem ascending_eq_insertionSort (rolls : List Int) : ascending rolls = rolls.insertionSort (· ≤ ·) :=
  List.mergeSort_eq_insertionSort (· ≤ ·) rolls

/-- What is in order depends on the dice only, not on the order in which they were rolled. -/
theorem ascending_eq_of_perm {rolls others : List Int} (h : others.Perm rolls) : ascending others = ascending rolls :=
  (((perm_ascending others).trans h).trans (perm_ascending rolls).symm).eq_of_pairwise'
    (pairwise_ascending others) (pairwise_ascending rolls)

theorem descending_eq_of_perm {rolls others : List Int} (h : others.Perm rolls) :
    descending others = descending rolls := by
  rw [descending_eq_reverse_ascending, descending_eq_reverse_ascending, ascending_eq_of_perm h]

/-- Keeping as many dice as the argument says keeps all of them at most, and none at least. -/
theorem length_take_toNat {dice rolls : List Int} (h : dice.Perm rolls) (argument : Int) :
    ((dice.take argument.toNat).length : Int) = min (max argument 0) rolls.length := by
  rw [List.length_take, h.length_eq]
  omega

theorem length_drop_toNat {dice rolls : List Int} (h : dice.Perm rolls) (argument : Int) :
    ((dice.drop argument.toNat).length : Int) = rolls.length - min (max argument 0) rolls.length := by
  rw [List.length_drop, h.length_eq]
  omega

namespace Modifier

/-- What is left of the dice by a modifier that picks `n` of them. -/
def picked (m : Modifier) (n : Nat) (rolls : List Int) : List Int :=
  match m with
  | keepLowest => (ascending rolls).take n
  | dropHighest => (descending rolls).drop n
  | dropLowest => (ascending rolls).drop n
  | _ => (descending rolls).take n

/-- The modifier that keeps what the other one drops, at the other end. -/
def opposite : Modifier → Modifier
  | keepHighest => dropLowest
  | keepLowest => dropHighest
  | dropHighest => keepLowest
  | dropLowest => keepHighest
  | m => m

theorem picksFace_opposite (m : Modifier) : m.opposite.picksFace = m.picksFace := by
  cases m <;> rfl

theorem apply_eq_picked {m : Modifier} (h : m.picksFace = false) (argument limit : Int) (again : Roll Int)
    (rolls : List Int) : m.apply argument limit again rolls = .done (m.picked argument.toNat rolls) := by
  cases m with
  | reroll | twice | explode => cases h
  | keepHighest | keepLowest | dropHighest | dropLowest => rfl

/-- What is left are some of the dice. -/
theorem picked_subperm (m : Modifier) (n : Nat) (rolls : List Int) : (m.picked n rolls).Subperm rolls := by
  cases m with
  | keepLowest => exact (List.take_sublist _ _).subperm.trans (perm_ascending rolls).subperm
  | dropHighest => exact (List.drop_sublist _ _).subperm.trans (perm_descending rolls).subperm
  | dropLowest => exact (List.drop_sublist _ _).subperm.trans (perm_ascending rolls).subperm
  | reroll | twice | explode | keepHighest =>
    exact (List.take_sublist _ _).subperm.trans (perm_descending rolls).subperm

theorem ofToken?_token (m : Modifier) : ofToken? m.token = some m := by
  cases m <;> rfl

theorem modify_token {m : Modifier} (h : m.picksFace = false) (argument limit : Int) (again : Roll Int)
    (rolls : List Int) :
    modify (some m.token) argument limit again rolls = .done (m.picked argument.toNat rolls) := by
  unfold modify
  dsimp only
  rw [ofToken?_token]
  exact apply_eq_picked h argument limit again rolls

/-- **Opposites.** A modifier leaves the same dice as its opposite with the number of the other dice, in
opposite order. -/
theorem picked_opposite {m : Modifier} (h : m.picksFace = false) (n : Nat) (rolls : List Int) :
    m.opposite.picked (rolls.length - n) rolls = (m.picked n rolls).reverse := by
  have hlength : (ascending rolls).length = rolls.length := (perm_ascending rolls).length_eq
  cases m with
  | reroll | twice | explode => cases h
  | keepHighest =>
    show (ascending rolls).drop (rolls.length - n) = ((descending rolls).take n).reverse
    rw [descending_eq_reverse_ascending, List.take_reverse, hlength, List.reverse_reverse]
  | keepLowest =>
    show (descending rolls).drop (rolls.length - n) = ((ascending rolls).take n).reverse
    rw [descending_eq_reverse_ascending, List.drop_reverse, hlength]
    exact congrArg List.reverse (List.take_eq_take_iff.mpr (by omega))
  | dropHighest =>
    show (ascending rolls).take (rolls.length - n) = ((descending rolls).drop n).reverse
    rw [descending_eq_reverse_ascending, List.drop_reverse, hlength, List.reverse_reverse]
  | dropLowest =>
    show (descending rolls).take (rolls.length - n) = ((ascending rolls).drop n).reverse
    rw [descending_eq_reverse_ascending, List.take_reverse, hlength]
    exact congrArg List.reverse (List.drop_eq_drop_iff.mpr (by omega))

/-- A keep leaves as many dice as it says. -/
theorem length_picked_of_keep {m : Modifier} (h : m = keepHighest ∨ m = keepLowest) {n : Nat}
    {rolls : List Int} (hn : n ≤ rolls.length) : (m.picked n rolls).length = n := by
  rcases h with rfl | rfl
  · show ((descending rolls).take n).length = n
    rw [List.length_take, (perm_descending rolls).length_eq, Nat.min_eq_left hn]
  · show ((ascending rolls).take n).length = n
    rw [List.length_take, (perm_ascending rolls).length_eq, Nat.min_eq_left hn]

end Modifier

end DiceNotation
