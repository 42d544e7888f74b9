import DiceNotation.Roll
import DiceNotation.Text.Numeral

/-!
# Explosions

Dice that show a given face explode: another die is rolled beside each of them, and it may explode in
turn. This goes on in generations. In each one all the dice that were new in the generation before are
looked at together; before any die is rolled the pool as it would become is compared with the limit.
-/

namespace DiceNotation

/-- A die of a pool that may explode. Only a fresh die can: it has not been looked at yet. -/
structure PoolDie where
  value : Int
  fresh : Bool
deriving DecidableEq, Repr

namespace PoolDie

/-- Whether the die explodes on a face. -/
def explodes (face : Int) (d : PoolDie) : Bool := d.fresh && d.value == face

end PoolDie

namespace Explosion

/-- The number of dice that explode. -/
def pending (face : Int) (pool : List PoolDie) : Nat := pool.countP (·.explodes face)

/-- What stands in the next generation for a die: the die itself, looked at, and beside it a new one if
it explodes. -/
def successors (face : Int) (again : Roll Int) (d : PoolDie) : Roll (List PoolDie) :=
  if d.explodes face then do
    let value ← again
    return [⟨d.value, false⟩, ⟨value, true⟩]
  else .done [⟨d.value, false⟩]

/-- One generation: beside each die that explodes a new one is rolled, in order. -/
def generation (face : Int) (again : Roll Int) (pool : List PoolDie) : Roll (List PoolDie) := do
  let groups ← Roll.mapEach (successors face again) pool
  return groups.flatten

/-- The error of a pool of `size` dice that would have to grow by `pending` dice past its limit. Its message
writes the size that the pool would have, and the limit. The size of a pool can always be written, for no pool
has that many dice, and so can a limit that a pool comes to. But a limit far below zero may have too many digits. -/
def excess (face : Int) (size pending : Nat) (limit : Int) : RollError :=
  if limit < 0 && Text.isOverlong limit then .unwritable face size pending limit
  else .limitExceeded face size pending limit

/-- A limit that a pool may have can be written. -/
theorem excess_of_nonneg {limit : Int} (h : 0 ≤ limit) (face : Int) (size pending : Nat) :
    excess face size pending limit = .limitExceeded face size pending limit :=
  if_neg fun hoverlong => by
    simp only [Bool.and_eq_true, decide_eq_true_eq] at hoverlong
    omega

/-- Generation after generation, as long as dice explode. `room` is the number of dice that may still be
added; a generation that would need more stops the roll. -/
def settle (face limit : Int) (again : Roll Int) (room : Nat) (pool : List PoolDie) :
    Roll (List Int) :=
  if pending face pool = 0 then .done (pool.map (·.value))
  else if pending face pool ≤ room then do
    let next ← generation face again pool
    settle face limit again (room - pending face pool) next
  else .stop (excess face pool.length (pending face pool) limit)
termination_by room

end Explosion

/-- Lets the dice that show `face` explode in a pool that may grow to `limit` dice. -/
def explode (face limit : Int) (again : Roll Int) (rolls : List Int) : Roll (List Int) :=
  Explosion.settle face limit again (limit - rolls.length).toNat (rolls.map (⟨·, true⟩))

end DiceNotation
