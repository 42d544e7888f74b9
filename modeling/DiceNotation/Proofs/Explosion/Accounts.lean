import DiceNotation.Proofs.Roll.Falling
import DiceNotation.Proofs.Term.Rolling

/-!
# Dice that are rolled beside others

A reroll rolls a die for each one that shows the face, and with that it is done. In an explosion the dice that
are rolled may explode in turn, so it keeps an account: a die is owed for each one that shows the face, be it a
die of the pool or one that was rolled beside it, and the explosion ends when nothing is owed any more. It is
stopped when what it owes is more than the limit leaves room for.
-/

namespace DiceNotation

variable {faces offset face limit : Int}

theorem rerollOnce_falls (faces offset face : Int) (rolls : List Int) :
    (rerollOnce face (Roll.die faces offset) rolls).FallsTo faces offset
      fun dice _ => dice.length = rolls.count face := by
  unfold rerollOnce
  induction rolls with
  | nil => exact .done rfl
  | cons value rest ih =>
    rw [Roll.mapEach_cons]
    by_cases h : value = face
    · rw [if_pos h, h, List.count_cons_self]
      refine (Roll.die_falls faces offset).bind fun dice again hdice => ih.map fun more _ hmore => ?_
      rw [hdice, List.length_append, hmore, List.length_singleton, Nat.add_comm]
    · rw [if_neg h, List.count_cons_of_ne h]
      exact ih.map fun dice _ hdice => hdice

namespace Explosion

/-- How an explosion can end that begins with `size` dice, of which `owed` show the face: the dice that it has
rolled, and its outcome. -/
inductive Accounts (face limit : Int) (size owed : Nat) : List Int → Except RollError (List Int) → Prop where
  /-- A die was rolled for each one that shows the face. -/
  | settled {dice values : List Int} : dice.length = owed + dice.count face →
      values.length = size + dice.length → Accounts face limit size owed dice (.ok values)
  /-- For some of those that show the face none was rolled, as with theirs there would be too many. -/
  | exceeded {dice : List Int} {waiting : Nat} : dice.length + waiting = owed + dice.count face →
      limit < size + dice.length + waiting →
      Accounts face limit size owed dice (.error (excess face (size + dice.length) waiting limit))

/-- **A step.** What a generation rolls is paid, and of this the dice that show the face are owed next. -/
theorem Accounts.generation {size owed : Nat} {dice more : List Int} {outcome : Except RollError (List Int)}
    (hpaid : dice.length = owed) (h : Accounts face limit (size + dice.length) (dice.count face) more outcome) :
    Accounts face limit size owed (dice ++ more) outcome := by
  have hlength : (dice ++ more).length = dice.length + more.length := List.length_append
  have hcount : (dice ++ more).count face = dice.count face + more.count face := List.count_append
  cases h with
  | settled hsettled hvalues => exact .settled (by omega) (by omega)
  | exceeded howed hlimit =>
    rw [Nat.add_assoc, ← hlength]
    exact .exceeded (by omega) (by omega)

theorem pending_fresh (face : Int) (rolls : List Int) :
    pending face (rolls.map (PoolDie.mk · true)) = rolls.count face := by
  rw [pending, List.countP_map]
  rfl

/-- A generation rolls a die for each one that explodes. Of the dice of the next one these alone can explode. -/
theorem generation_falls (faces offset face : Int) (pool : List PoolDie) :
    (generation face (Roll.die faces offset) pool).FallsTo faces offset fun dice next =>
      dice.length = pending face pool ∧ next.length = pool.length + dice.length ∧
        pending face next = dice.count face := by
  induction pool with
  | nil => exact .done ⟨rfl, rfl, rfl⟩
  | cons d pool ih =>
    rw [generation_cons]
    cases hexplodes : d.explodes face with
    | false =>
      rw [successors_of_not_explodes hexplodes, pending_cons_of_not_explodes hexplodes, Roll.done_bind]
      refine ih.map fun dice next hnext => ?_
      obtain ⟨hdice, hlength, hpending⟩ := hnext
      refine ⟨hdice, ?_, ?_⟩
      · rw [List.singleton_append, List.length_cons, List.length_cons]
        omega
      · rw [List.singleton_append, pending_cons_of_not_explodes (d.explodes_looked face), hpending]
    | true =>
      rw [successors_of_explodes hexplodes, pending_cons_of_explodes hexplodes, Roll.bind_assoc]
      refine (Roll.die_falls faces offset).bind fun first value hfirst => ?_
      rw [Roll.done_bind, hfirst]
      refine ih.map fun dice next hnext => ?_
      obtain ⟨hdice, hlength, hpending⟩ := hnext
      refine ⟨?_, ?_, ?_⟩
      · rw [List.singleton_append, List.length_cons, hdice]
      · show next.length + 1 + 1 = pool.length + 1 + (dice.length + 1)
        omega
      · show pending face (d.looked :: ⟨value, true⟩ :: next) = (value :: dice).count face
        rw [pending_cons_of_not_explodes (d.explodes_looked face), List.count_cons, ← hpending]
        exact List.countP_cons

/-- **A run.** Explosions account for all their dice. -/
theorem settle_falls (faces offset face limit : Int) (room : Nat) (pool : List PoolDie)
    (hroom : room = (limit - pool.length).toNat) :
    (settle face limit (Roll.die faces offset) room pool).Falls faces offset
      (Accounts face limit pool.length (pending face pool)) := by
  induction room using Nat.strongRecOn generalizing pool with
  | ind room ih =>
    by_cases hzero : pending face pool = 0
    · rw [settle_of_pending_eq_zero hzero, hzero]
      exact .settled rfl (List.length_map _)
    by_cases hfits : pending face pool ≤ room
    · rw [settle_of_fits hzero hfits]
      refine (generation_falls faces offset face pool).bind_falls fun dice next hnext => ?_
      obtain ⟨hdice, hlength, hpending⟩ := hnext
      have hrest := ih (room - pending face pool) (by omega) next (by omega)
      rw [hlength, hpending] at hrest
      exact hrest.imp fun more outcome => Accounts.generation hdice
    · rw [settle_of_exceeds hzero hfits]
      exact .exceeded (Nat.zero_add _) (by rw [List.length_nil]; omega)

end Explosion

theorem explode_falls (faces offset face limit : Int) (rolls : List Int) :
    (explode face limit (Roll.die faces offset) rolls).Falls faces offset
      (Explosion.Accounts face limit rolls.length (rolls.count face)) := by
  have hfresh : (rolls.map (PoolDie.mk · true)).length = rolls.length := List.length_map _
  have hsettle := Explosion.settle_falls faces offset face limit _ (rolls.map (PoolDie.mk · true)) rfl
  rwa [hfresh, Explosion.pending_fresh] at hsettle

end DiceNotation
