import DiceNotation.Proofs.Explosion.Settling
import DiceNotation.Proofs.Modifier.Picking
import DiceNotation.Proofs.Roll.Translation

/-!
# Dice that are moved

All dice of a pool, those that a modifier adds as well, may be moved by the same offset. A modifier that picks
dice by face picks the same ones if its argument is moved with them, and one that picks a number of dice picks
the same ones anyway. What comes out is moved in the end. The one thing that is said of the dice otherwise is on
which face an explosion was stopped.
-/

namespace DiceNotation

variable {offset : Int}

/-- The error of a roll whose dice are all moved. -/
def RollError.moved (offset : Int) : RollError → RollError
  | limitExceeded face size pending limit => limitExceeded (face + offset) size pending limit
  | unwritable face size pending limit => unwritable (face + offset) size pending limit
  | e => e

theorem RollError.message_moved (offset : Int) (e : RollError) : (e.moved offset).message = e.message := by
  cases e with
  | limitExceeded face size pending limit | unwritable face size pending limit => rfl
  | unknownModifier token | source failure => rfl

/-- The roll whose dice are all moved. -/
abbrev Roll.moved {α β : Type} (offset : Int) (move : α → β) (r : Roll α) : Roll β :=
  r.translate move (RollError.moved offset)

theorem Roll.die_eq_moved (faces offset : Int) :
    Roll.die faces offset = (Roll.die faces 0).moved offset (· + offset) := by
  simp [Roll.die, Roll.moved, Roll.translate]

/-! ## Keeps and drops -/

theorem descending_map_add (rolls : List Int) :
    descending (rolls.map (· + offset)) = (descending rolls).map (· + offset) :=
  (List.map_mergeSort fun a _ b _ => by simp).symm

theorem ascending_map_add (rolls : List Int) :
    ascending (rolls.map (· + offset)) = (ascending rolls).map (· + offset) :=
  (List.map_mergeSort fun a _ b _ => by simp).symm

theorem Modifier.picked_map_add (m : Modifier) (n : Nat) (rolls : List Int) :
    m.picked n (rolls.map (· + offset)) = (m.picked n rolls).map (· + offset) := by
  cases m <;> simp only [picked, descending_map_add, ascending_map_add, List.map_take, List.map_drop]

/-! ## Dice by face -/

/-- A moved die shows a face if the die shows the face moved back. -/
theorem add_eq_iff_eq_sub {value face : Int} : value + offset = face ↔ value = face - offset := by
  omega

theorem countTwice_map_add (face : Int) (rolls : List Int) :
    countTwice face (rolls.map (· + offset)) = (countTwice (face - offset) rolls).map (· + offset) := by
  unfold countTwice
  rw [List.flatMap_map, List.map_flatMap]
  congr 1
  funext value
  simp only [add_eq_iff_eq_sub]
  split
  · rfl
  · rfl

theorem rerollOnce_moved (face : Int) (again : Roll Int) (rolls : List Int) :
    rerollOnce face (again.moved offset (· + offset)) (rolls.map (· + offset)) =
      (rerollOnce (face - offset) again rolls).moved offset (List.map (· + offset)) := by
  rw [rerollOnce, Roll.mapEach_map]
  refine Eq.trans ?_ (Roll.mapEach_translate _ rolls)
  congr 1
  funext value
  simp only [add_eq_iff_eq_sub]
  split
  · rfl
  · rfl

/-! ## Explosions -/

namespace PoolDie

/-- The die with its value moved. -/
def moved (offset : Int) (d : PoolDie) : PoolDie := ⟨d.value + offset, d.fresh⟩

theorem explodes_moved (face : Int) (d : PoolDie) : (d.moved offset).explodes face = d.explodes (face - offset) := by
  rw [Bool.eq_iff_iff]
  simp [explodes, moved, add_eq_iff_eq_sub]

end PoolDie

namespace Explosion

theorem pending_map_moved (face : Int) (pool : List PoolDie) :
    pending face (pool.map (PoolDie.moved offset)) = pending (face - offset) pool := by
  rw [pending, pending, List.countP_map]
  congr 1
  funext d
  exact d.explodes_moved face

theorem successors_moved (face : Int) (again : Roll Int) (d : PoolDie) :
    successors face (again.moved offset (· + offset)) (d.moved offset) =
      (successors (face - offset) again d).moved offset (List.map (PoolDie.moved offset)) := by
  unfold successors
  rw [d.explodes_moved]
  split
  · exact Roll.translate_bind again fun value => rfl
  · rfl

theorem generation_moved (face : Int) (again : Roll Int) (pool : List PoolDie) :
    generation face (again.moved offset (· + offset)) (pool.map (PoolDie.moved offset)) =
      (generation (face - offset) again pool).moved offset (List.map (PoolDie.moved offset)) := by
  unfold generation
  simp only [Roll.bind_eq, Roll.mapEach_map, successors_moved, Roll.mapEach_translate]
  exact Roll.translate_bind _ fun groups => congrArg Roll.done List.map_flatten.symm

theorem moved_excess (face : Int) (size pending : Nat) (limit : Int) :
    (excess (face - offset) size pending limit).moved offset = excess face size pending limit := by
  unfold excess
  split
  · rw [RollError.moved, Int.sub_add_cancel]
  · rw [RollError.moved, Int.sub_add_cancel]

/-- **Explosions of moved dice** are those of the dice, with the face moved back. -/
theorem settle_moved (face limit : Int) (again : Roll Int) (room : Nat) (pool : List PoolDie) :
    settle face limit (again.moved offset (· + offset)) room (pool.map (PoolDie.moved offset)) =
      (settle (face - offset) limit again room pool).moved offset (List.map (· + offset)) := by
  have hpending : pending face (pool.map (PoolDie.moved offset)) = pending (face - offset) pool :=
    pending_map_moved face pool
  induction room using Nat.strongRecOn generalizing pool with
  | ind room ih =>
    by_cases hzero : pending (face - offset) pool = 0
    · rw [settle_of_pending_eq_zero (hpending.trans hzero), settle_of_pending_eq_zero hzero, List.map_map]
      show Roll.done _ = Roll.done _
      rw [List.map_map]
      rfl
    · by_cases hfits : pending (face - offset) pool ≤ room
      · rw [settle_of_fits (hpending ▸ hzero) (hpending ▸ hfits), settle_of_fits hzero hfits, hpending,
          generation_moved]
        exact Roll.translate_bind _ fun next => ih _ (by omega) next (pending_map_moved face next)
      · rw [settle_of_exceeds (hpending ▸ hzero) (hpending ▸ hfits), settle_of_exceeds hzero hfits, hpending,
          List.length_map]
        show Roll.stop _ = Roll.stop _
        rw [moved_excess]

end Explosion

theorem explode_moved (face limit : Int) (again : Roll Int) (rolls : List Int) :
    explode face limit (again.moved offset (· + offset)) (rolls.map (· + offset)) =
      (explode (face - offset) limit again rolls).moved offset (List.map (· + offset)) := by
  unfold explode
  rw [List.length_map, ← Explosion.settle_moved, List.map_map, List.map_map]
  rfl

/-! ## Modifiers -/

/-- The argument moved back, if the modifier picks dice by face. -/
def Modifier.movedBack (offset : Int) (m : Modifier) (argument : Int) : Int :=
  if m.picksFace then argument - offset else argument

/-- **A modifier of moved dice** makes of them what it makes of the dice, moved. -/
theorem Modifier.apply_moved (m : Modifier) (argument limit : Int) (again : Roll Int) (rolls : List Int) :
    m.apply argument limit (again.moved offset (· + offset)) (rolls.map (· + offset)) =
      (m.apply (m.movedBack offset argument) limit again rolls).moved offset (List.map (· + offset)) := by
  cases m with
  | reroll => exact rerollOnce_moved argument again rolls
  | twice => exact congrArg Roll.done (countTwice_map_add argument rolls)
  | explode => exact explode_moved argument limit again rolls
  | keepHighest | keepLowest | dropHighest | dropLowest =>
    rw [apply_eq_picked rfl, apply_eq_picked rfl, picked_map_add]
    rfl

end DiceNotation
