import Mathlib.Algebra.Order.BigOperators.Group.List
import Mathlib.Algebra.Ring.Int.Defs
import Mathlib.Data.List.Perm.Subperm
import DiceNotation.Proofs.Modifier.Picking

/-!
# What keeps select

A keep leaves the dice at one end of the pool in order. These are the best ones there are at that end: no
others, as many in number, add up to more (or less, for the lowest), and none that is left out is better than
one that is kept. The drop at the same end leaves the others, and the drop at the other end, told the number of
the others, leaves the same dice in opposite order.

Both ends are treated at once, by an order that says which of two dice is the better one.
-/

namespace DiceNotation

/-- The dice `kept` are so many of those rolled, and the best ones. That a die is at least as good as another
one is written `better`. -/
structure SelectsBest (better : Int → Int → Prop) (rolls kept : List Int) (size : Int) : Prop where
  /-- There are so many of them. -/
  length : (kept.length : Int) = size
  /-- They are among the dice, none of them more often than it was rolled. -/
  among : kept.Subperm rolls
  /-- As many other dice do not add up to anything better. -/
  sum : ∀ others : List Int, others.Subperm rolls → (others.length : Int) = size → better kept.sum others.sum
  /-- No die that is left out is better than one that is kept. -/
  leftOut : ∀ out : List Int, (kept ++ out).Perm rolls → ∀ die ∈ kept, ∀ other ∈ out, better die other

variable {better : Int → Int → Prop} [Std.Refl better] {rolls dice : List Int}

/-! ## The beginning of dice in order -/

/-- Dice that are taken from some in order are, one by one, no better than those at the beginning. -/
theorem forall₂_take_of_sublist (hsorted : dice.Pairwise better) {chosen : List Int}
    (hchosen : chosen.Sublist dice) :
    List.Forall₂ better (dice.take chosen.length) chosen := by
  induction dice generalizing chosen with
  | nil =>
    rw [List.sublist_nil.mp hchosen]
    exact .nil
  | cons die rest ih =>
    cases chosen with
    | nil => exact .nil
    | cons first others =>
      have hothers : others.Sublist rest := hchosen.tail
      have hfirst : better die first := by
        rcases List.mem_cons.mp (hchosen.subset List.mem_cons_self) with rfl | hmem
        · exact Std.Refl.refl first
        · exact List.rel_of_pairwise_cons hsorted hmem
      exact .cons hfirst (ih hsorted.of_cons hothers)

/-- Whatever dice are chosen, they can be told one by one against those at the beginning. -/
theorem exists_forall₂_take (hsorted : dice.Pairwise better) (hdice : dice.Perm rolls) {others : List Int}
    (hothers : others.Subperm rolls) :
    ∃ chosen, chosen.Perm others ∧ List.Forall₂ better (dice.take others.length) chosen := by
  obtain ⟨chosen, hperm, hsub⟩ := hothers.trans hdice.symm.subperm
  refine ⟨chosen, hperm, ?_⟩
  rw [← hperm.length_eq]
  exact forall₂_take_of_sublist hsorted hsub

/-- **The beginning is the best selection**, if what is better one by one adds up to something better. -/
theorem selectsBest_take (hsorted : dice.Pairwise better) (hdice : dice.Perm rolls)
    (hsum : ∀ first second : List Int, List.Forall₂ better first second → better first.sum second.sum)
    (k : Int) : SelectsBest better rolls (dice.take k.toNat) (min (max k 0) rolls.length) where
  length := length_take_toNat hdice k
  among := (List.take_sublist _ _).subperm.trans hdice.subperm
  sum := by
    intro others hothers hlength
    obtain ⟨chosen, hperm, hbetter⟩ := exists_forall₂_take hsorted hdice hothers
    have htake : dice.take others.length = dice.take k.toNat := by
      rw [List.take_eq_take_iff, hdice.length_eq]
      omega
    rw [htake] at hbetter
    rw [← hperm.sum_eq]
    exact hsum _ _ hbetter
  leftOut := by
    intro out hout die hdie other hother
    rw [← List.take_append_drop k.toNat dice] at hdice hsorted
    -- what is left out is the rest of the dice, in some order
    have hrest : out.Perm (dice.drop k.toNat) :=
      (List.perm_append_left_iff (dice.take k.toNat)).mp (hout.trans hdice.symm)
    exact (List.pairwise_append.mp hsorted).2.2 die hdie other (hrest.mem_iff.mp hother)

/-! ## Keeps -/

/--
**Keeps select the best dice.**

A keep of the highest leaves as many dice as its number says, as far as there are so many: a selection of the
dice that no other one of this size exceeds in total, and in which every die is at least as high as any that is
left out. A keep of the lowest does so at the other end. What keeps and drops leave does not change with the
order of the dice.
-/
theorem keeps_select_best (k : Int) (rolls : List Int) :
    SelectsBest (· ≥ ·) rolls (keepHighest k rolls) (min (max k 0) rolls.length) ∧
      SelectsBest (· ≤ ·) rolls (keepLowest k rolls) (min (max k 0) rolls.length) ∧
      ∀ others : List Int, others.Perm rolls →
        keepHighest k others = keepHighest k rolls ∧ keepLowest k others = keepLowest k rolls ∧
          dropHighest k others = dropHighest k rolls ∧ dropLowest k others = dropLowest k rolls := by
  refine ⟨?_, ?_, fun others hperm => ?_⟩
  · have hsum : ∀ first second : List Int, List.Forall₂ (· ≥ ·) first second → first.sum ≥ second.sum :=
      fun _ _ h => h.flip.sum_le_sum
    exact selectsBest_take (pairwise_descending rolls) (perm_descending rolls) hsum k
  · have hsum : ∀ first second : List Int, List.Forall₂ (· ≤ ·) first second → first.sum ≤ second.sum :=
      fun _ _ h => h.sum_le_sum
    exact selectsBest_take (pairwise_ascending rolls) (perm_ascending rolls) hsum k
  · simp only [keepHighest, keepLowest, dropHighest, dropLowest, descending_eq_of_perm hperm,
      ascending_eq_of_perm hperm, and_self]

/-- Of two sixes, a two and a minus one the keeps leave the sixes, and the two lowest: one six and the minus one
are between them, and it does not matter which six it is. -/
theorem keeps_select_best_two :
    let rolls : List Int := [6, -1, 2, 6]
    keepHighest 2 rolls = [6, 6] ∧ keepLowest 2 rolls = [-1, 2] ∧ [6, -1].Subperm rolls ∧
      (keepLowest 2 rolls).sum ≤ [6, -1].sum ∧ [6, -1].sum ≤ (keepHighest 2 rolls).sum ∧
      keepHighest 2 [6, 6, 2, -1] = keepHighest 2 rolls := by
  intro rolls
  obtain ⟨hhighest, hlowest, hperm⟩ := keeps_select_best 2 rolls
  have hamong : ([6, -1] : List Int).Subperm rolls :=
    (List.prefix_append [6, -1] [2, 6]).sublist.subperm
  have hhighestDice : keepHighest 2 rolls = [6, 6] := by
    rw [keepHighest, descending_eq_insertionSort]
    decide
  have hlowestDice : keepLowest 2 rolls = [-1, 2] := by
    rw [keepLowest, ascending_eq_insertionSort]
    decide
  exact ⟨hhighestDice, hlowestDice, hamong, hlowest.sum [6, -1] hamong (by decide),
    hhighest.sum [6, -1] hamong (by decide), (hperm [6, 6, 2, -1] (by decide)).1⟩

/-! ## Keeps and drops together -/

/--
**Keeps and drops complement each other.**

Whatever the number is, what a keep leaves and then what the drop at the same end leaves are all the dice, each
in its place in order from that end. Read from the other end, what a keep leaves is what the drop at the other
end leaves with the number of the dice less the number of the keep.
-/
theorem keeps_and_drops_complement (k : Int) (rolls : List Int) :
    (keepHighest k rolls ++ dropHighest k rolls).Perm rolls ∧
      (keepHighest k rolls ++ dropHighest k rolls).Pairwise (· ≥ ·) ∧
      (keepLowest k rolls ++ dropLowest k rolls).Perm rolls ∧
      (keepLowest k rolls ++ dropLowest k rolls).Pairwise (· ≤ ·) ∧
      (keepHighest k rolls).reverse = dropLowest (rolls.length - k) rolls ∧
      (keepLowest k rolls).reverse = dropHighest (rolls.length - k) rolls := by
  have hhighest : keepHighest k rolls ++ dropHighest k rolls = descending rolls := List.take_append_drop _ _
  have hlowest : keepLowest k rolls ++ dropLowest k rolls = ascending rolls := List.take_append_drop _ _
  -- with a negative number there are more to drop than there are dice
  have hdrop : ∀ dice : List Int, dice.Perm rolls →
      dice.drop (rolls.length - k.toNat) = dice.drop (rolls.length - k : Int).toNat := by
    intro dice hdice
    rw [List.drop_eq_drop_iff, hdice.length_eq]
    omega
  rw [hhighest, hlowest]
  refine ⟨perm_descending rolls, pairwise_descending rolls, perm_ascending rolls, pairwise_ascending rolls, ?_, ?_⟩
  · have hopposite := Modifier.picked_opposite (m := .keepHighest) rfl k.toNat rolls
    exact hopposite.symm.trans (hdrop _ (perm_ascending rolls))
  · have hopposite := Modifier.picked_opposite (m := .keepLowest) rfl k.toNat rolls
    exact hopposite.symm.trans (hdrop _ (perm_descending rolls))

end DiceNotation
