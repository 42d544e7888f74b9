import Mathlib.Algebra.Ring.Int.Defs
import DiceNotation.Explosion
import DiceNotation.Proofs.Explosion.Chains
import DiceNotation.Proofs.Roll
import DiceNotation.Roll.Error

/-!
# Explosions follow their chains

The pool of an explosion is flat: it only knows of each die whether it is fresh. Cut at the right places
it falls into the chains of the dice it was begun with, and only the last die of a chain can explode.
This is kept by every generation, which asks for the dice that the chains take, in the same order. So
explosions end where the chains do, with their dice, and stop at the first generation that the limit
does not allow.
-/

namespace DiceNotation

namespace PoolDie

/-- The die after it was looked at. -/
def looked (d : PoolDie) : PoolDie := ⟨d.value, false⟩

@[simp] theorem explodes_looked (face : Int) (d : PoolDie) : d.looked.explodes face = false := rfl

theorem map_value_looked (dice : List PoolDie) : (dice.map looked).map (·.value) = dice.map (·.value) := by
  rw [List.map_map]
  rfl

end PoolDie

/-- A pool falls into chains: the dice of each chain stand together, in order, and of these only the
last one can explode, as it does if the chain is alive. -/
inductive FallsInto (face : Int) : List PoolDie → List Chain → Prop where
  | nil : FallsInto face [] []
  | cons {front : List PoolDie} {last : PoolDie} {c : Chain} {pool : List PoolDie} {chains : List Chain} :
      (∀ d ∈ front, d.explodes face = false) → last.explodes face = c.alive →
      front.map (·.value) ++ [last.value] = c.values →
      FallsInto face pool chains → FallsInto face (front ++ last :: pool) (c :: chains)

namespace FallsInto

variable {face : Int} {pool : List PoolDie} {chains : List Chain}

/-- The dice of a roll, each of them fresh, fall into the chains that they begin. -/
theorem start (face : Int) (rolls : List Int) :
    FallsInto face (rolls.map (⟨·, true⟩)) (Burst.start face rolls).chains := by
  induction rolls with
  | nil => exact .nil
  | cons value rest ih =>
    have hfront : ∀ d ∈ ([] : List PoolDie), d.explodes face = false := by
      intro d hd
      cases hd
    exact cons (c := Chain.start face value) hfront rfl rfl ih

theorem values (h : FallsInto face pool chains) :
    pool.map (·.value) = chains.flatMap (·.values) := by
  induction h with
  | nil => rfl
  | cons hfront hlast hvalues hrest ih =>
    rw [List.map_append, List.map_cons, ih, List.flatMap_cons, ← hvalues, List.append_assoc,
      List.singleton_append]

/-- The dice that explode are the ends of the chains that are alive. -/
theorem pending (h : FallsInto face pool chains) :
    Explosion.pending face pool = chains.countP (·.alive) := by
  induction h with
  | nil => rfl
  | cons hfront hlast hvalues hrest ih =>
    have hnone := List.countP_eq_zero.mpr fun d hd => Bool.eq_false_iff.mp (hfront d hd)
    rw [Explosion.pending] at ih
    rw [Explosion.pending, List.countP_append, hnone, List.countP_cons, List.countP_cons, hlast, ih,
      Nat.zero_add]

end FallsInto

namespace Explosion

/-! ## A generation of a pool -/

theorem generation_cons (face : Int) (again : Roll Int) (d : PoolDie) (pool : List PoolDie) :
    generation face again (d :: pool) = (successors face again d).bind fun group =>
      (generation face again pool).bind fun rest => .done (group ++ rest) := by
  simp only [generation, Roll.bind_eq, Roll.pure_eq_done, Roll.mapEach_cons, Roll.bind_assoc,
    Roll.done_bind, List.flatten_cons]

theorem successors_of_explodes {face : Int} {d : PoolDie} (h : d.explodes face = true)
    (again : Roll Int) :
    successors face again d = again.bind fun value => .done [d.looked, ⟨value, true⟩] := by
  rw [successors, if_pos h]
  rfl

theorem successors_of_not_explodes {face : Int} {d : PoolDie} (h : d.explodes face = false)
    (again : Roll Int) : successors face again d = .done [d.looked] := by
  rw [successors, h, if_neg Bool.false_ne_true]
  rfl

/-- Dice that do not explode are looked at, and no die is rolled for them. -/
theorem generation_append_of_not_explodes {face : Int} {front : List PoolDie}
    (h : ∀ d ∈ front, d.explodes face = false) (again : Roll Int) (pool : List PoolDie) :
    generation face again (front ++ pool) = (generation face again pool).bind fun rest =>
      .done (front.map PoolDie.looked ++ rest) := by
  induction front with
  | nil => simp
  | cons d front ih =>
    have hd := successors_of_not_explodes (h d List.mem_cons_self) again
    have hfront := ih fun e he => h e (List.mem_cons_of_mem d he)
    rw [List.cons_append, generation_cons, hd, hfront]
    simp

/-- **A step.** A generation of a pool that falls into chains asks for a die for each chain that is
alive, and the pool that it gives falls into the next chains. -/
theorem run_generation {face : Int} {pool : List PoolDie} {chains : List Chain}
    (h : FallsInto face pool chains) (faces offset : Int) (stream : Nat → Int) (drawn : Nat) :
    ∃ next, (generation face (Roll.die faces offset) pool).run (Source.streaming stream offset) drawn =
        ⟨.ok next, List.replicate (chains.countP (·.alive)) faces, drawn + chains.countP (·.alive)⟩ ∧
      FallsInto face next (Chain.advance face stream drawn chains) := by
  induction h generalizing drawn with
  | nil => exact ⟨[], rfl, .nil⟩
  | @cons front last c pool chains hfront hlast hvalues hrest ih =>
    -- none of the dice that were looked at explodes any more
    have hlooked : ∀ dice : List PoolDie, ∀ d ∈ dice.map PoolDie.looked, d.explodes face = false := by
      intro dice
      exact List.forall_mem_map.mpr fun d _ => d.explodes_looked face
    rw [generation_append_of_not_explodes hfront, generation_cons]
    cases hc : c.alive with
    | false =>
      obtain ⟨next, hrun, hnext⟩ := ih drawn
      rw [successors_of_not_explodes (hlast.trans hc), Chain.advance_cons_of_not_alive hc,
        List.countP_cons, hc, if_neg Bool.false_ne_true, Nat.add_zero]
      refine ⟨front.map PoolDie.looked ++ last.looked :: next, ?_, ?_⟩
      · rw [Roll.done_bind, Roll.bind_assoc, Roll.run_bind_of_ok hrun]
        simp
      · refine .cons (hlooked front) hc.symm ?_ hnext
        rw [PoolDie.map_value_looked, ← hvalues]
        rfl
    | true =>
      obtain ⟨next, hrun, hnext⟩ := ih (drawn + 1)
      have hdie := Roll.run_die_streaming faces offset stream drawn
      rw [successors_of_explodes (hlast.trans hc), Chain.advance_cons_of_alive hc,
        List.countP_cons, hc, if_pos rfl]
      -- the die that exploded ends the part of the chain that is done with
      refine ⟨(front ++ [last]).map PoolDie.looked ++ ⟨stream drawn, true⟩ :: next, ?_, ?_⟩
      · rw [Roll.bind_assoc, Roll.bind_assoc, Roll.run_bind_of_ok hdie, Roll.done_bind, Roll.bind_assoc,
          Roll.run_bind_of_ok hrun]
        simp [List.replicate_succ, Nat.add_assoc, Nat.add_comm 1]
      · refine .cons (hlooked _) rfl ?_ hnext
        rw [PoolDie.map_value_looked, List.map_append, Chain.extend, ← hvalues]
        rfl

/-! ## Limits that cannot be written -/

/-- A limit that is not far below zero can be written. -/
theorem excess_of_lt {limit : Int} (h : -10 ^ Text.maxDigits < limit) (face : Int) (size pending : Nat) :
    excess face size pending limit = .limitExceeded face size pending limit := by
  have hcast : ((10 ^ Text.maxDigits : Nat) : Int) = 10 ^ Text.maxDigits := Int.natCast_pow 10 Text.maxDigits
  refine if_neg fun hoverlong => ?_
  simp only [Text.isOverlong, Bool.and_eq_true, decide_eq_true_eq, Nat.pow_eq] at hoverlong
  omega

theorem excess_of_le {limit : Int} (h : limit ≤ -10 ^ Text.maxDigits) (face : Int) (size pending : Nat) :
    excess face size pending limit = .unwritable face size pending limit := by
  have hcast : ((10 ^ Text.maxDigits : Nat) : Int) = 10 ^ Text.maxDigits := Int.natCast_pow 10 Text.maxDigits
  have hpos : 0 < 10 ^ Text.maxDigits := Nat.pow_pos (by decide)
  refine if_pos ?_
  simp only [Text.isOverlong, Bool.and_eq_true, decide_eq_true_eq, Nat.pow_eq]
  omega

/-! ## Generation after generation -/

theorem settle_of_pending_eq_zero {face : Int} {pool : List PoolDie} (h : pending face pool = 0)
    (limit : Int) (again : Roll Int) (room : Nat) :
    settle face limit again room pool = .done (pool.map (·.value)) := by
  rw [settle, if_pos h]

theorem settle_of_fits {face : Int} {pool : List PoolDie} {room : Nat} (h : pending face pool ≠ 0)
    (hroom : pending face pool ≤ room) (limit : Int) (again : Roll Int) :
    settle face limit again room pool =
      (generation face again pool).bind (settle face limit again (room - pending face pool)) := by
  rw [settle, if_neg h, if_pos hroom]
  rfl

theorem settle_of_exceeds {face : Int} {pool : List PoolDie} {room : Nat} (h : pending face pool ≠ 0)
    (hroom : ¬pending face pool ≤ room) (limit : Int) (again : Roll Int) :
    settle face limit again room pool =
      .stop (excess face pool.length (pending face pool) limit) := by
  rw [settle, if_neg h, if_neg hroom]

variable {face limit : Int} {stream : Nat → Int} {rolls : List Int}

/-- **A run.** Through generations that are needed and fit the limit an explosion comes to a pool that
falls into the chains of the last of them, and has asked for the dice that these have taken. -/
theorem run_explode_after {g : Nat}
    (h : ∀ k < g, (Burst.after face stream rolls k).alive ≠ 0 ∧
      (Burst.after face stream rolls k).size + (Burst.after face stream rolls k).alive ≤ limit)
    (faces offset : Int) :
    ∃ pool, FallsInto face pool (Burst.after face stream rolls g).chains ∧
      (explode face limit (Roll.die faces offset) rolls).run (Source.streaming stream offset) 0 =
        ((settle face limit (Roll.die faces offset)
          (limit - (Burst.after face stream rolls g).size).toNat pool).run
            (Source.streaming stream offset) (Burst.after face stream rolls g).drawn).after
          (List.replicate (Burst.after face stream rolls g).drawn faces) := by
  induction g with
  | zero =>
    refine ⟨rolls.map (⟨·, true⟩), FallsInto.start face rolls, ?_⟩
    show (explode face limit (Roll.die faces offset) rolls).run _ 0 = _
    rw [explode, ← Burst.size_start face rolls]
    rfl
  | succ g ih =>
    obtain ⟨pool, hpool, hrun⟩ := ih fun k hk => h k (by omega)
    obtain ⟨halive, hfits⟩ := h g (by omega)
    have hpending : pending face pool = (Burst.after face stream rolls g).alive := hpool.pending
    have hsize : (Burst.after face stream rolls (g + 1)).size =
        (Burst.after face stream rolls g).size + (Burst.after face stream rolls g).alive :=
      Burst.size_next face stream _
    -- the room that is left is again the distance from the dice to the limit
    have hroom : (limit - (Burst.after face stream rolls g).size).toNat - pending face pool =
        (limit - (Burst.after face stream rolls (g + 1)).size).toNat := by
      rw [hsize, hpending]
      omega
    obtain ⟨next, hgeneration, hnext⟩ :=
      run_generation hpool faces offset stream (Burst.after face stream rolls g).drawn
    refine ⟨next, hnext, ?_⟩
    rw [hrun, settle_of_fits (by rw [hpending]; exact halive) (by rw [hpending]; omega), hroom,
      Roll.run_bind_of_ok hgeneration, Report.after_after, List.replicate_append_replicate]
    rfl

end Explosion

/--
**Explosions follow their chains.**

Let the dice of a stream be rolled beside those that explode. If the chains come to an end that the
limit allows, the explosion gives their dice, one chain after the other. If they do not, be it that they
come to none at all, it stops before the first generation that would have more dice than the limit. It says
how many these would be and what the limit is, unless the limit has too many digits to be written: then it says
only that. In all cases it has asked for the dice that the chains have taken until then, and for no other.
-/
theorem run_explode (face limit faces offset : Int) (rolls : List Int) (stream : Nat → Int) :
    let burst := Burst.after face stream rolls
    let report := (explode face limit (Roll.die faces offset) rolls).run
      (Source.streaming stream offset) 0
    (∀ g, Burst.EndsWithin face limit stream rolls g →
      report = ⟨.ok (burst g).dice, List.replicate (burst g).drawn faces, (burst g).drawn⟩) ∧
    ((∀ g, ¬Burst.EndsWithin face limit stream rolls g) →
      ∃ g e, Burst.Exceeds face limit stream rolls g ∧
        report = ⟨.error e, List.replicate (burst g).drawn faces, (burst g).drawn⟩ ∧
        (-10 ^ Text.maxDigits < limit →
          e = .limitExceeded face (burst g).size (burst g).alive limit ∧
          e.message =
            s!"Explosion exceeded roll limit: {(burst g).size + (burst g).alive} > {limit}") ∧
        (limit ≤ -10 ^ Text.maxDigits →
          e = .unwritable face (burst g).size (burst g).alive limit ∧
          e.message = Text.unwritableMessage)) := by
  dsimp only
  constructor
  · intro g hg
    obtain ⟨f, hf, hend, hbefore⟩ := hg.exists_first
    obtain ⟨pool, hpool, hrun⟩ := Explosion.run_explode_after hbefore faces offset
    have hpending : Explosion.pending face pool = 0 := hpool.pending.trans hend
    rw [hrun, Explosion.settle_of_pending_eq_zero hpending, Burst.after_eq_of_alive_eq_zero hend hf,
      Roll.run_done, Report.after_mk, hpool.values, List.append_nil]
    rfl
  · intro hnone
    obtain ⟨g, hexceeds, halive⟩ := Burst.exists_exceeds hnone
    obtain ⟨pool, hpool, hrun⟩ := Explosion.run_explode_after
      (fun k hk => ⟨halive k (by omega), hexceeds.first k hk⟩) faces offset
    have hpending : Explosion.pending face pool = (Burst.after face stream rolls g).alive :=
      hpool.pending
    have hlength : pool.length = (Burst.after face stream rolls g).size := by
      rw [Burst.size, Burst.dice, ← hpool.values, List.length_map]
    have hmore := hexceeds.more
    have hlast := halive g (Nat.le_refl g)
    refine ⟨g, Explosion.excess face (Burst.after face stream rolls g).size
      (Burst.after face stream rolls g).alive limit, hexceeds, ?_, fun hwritable => ?_, fun hoverlong => ?_⟩
    · rw [hrun, Explosion.settle_of_exceeds (by rw [hpending]; exact hlast) (by rw [hpending]; omega),
        hpending, hlength, Roll.run_stop, Report.after_mk, List.append_nil]
    · rw [Explosion.excess_of_lt hwritable]
      exact ⟨rfl, rfl⟩
    · rw [Explosion.excess_of_le hoverlong]
      exact ⟨rfl, rfl⟩

/-- **A limit far below zero is not named.** A single die explodes, and the error does not say past which limit:
a one with 4300 zeros cannot be written. -/
theorem not_forall_limitExceeded :
    ¬∀ (face limit faces offset : Int) (rolls : List Int) (stream : Nat → Int),
      (∀ g, ¬Burst.EndsWithin face limit stream rolls g) →
        ∃ size pending, ((explode face limit (Roll.die faces offset) rolls).run
          (Source.streaming stream offset) 0).outcome = .error (.limitExceeded face size pending limit) := by
  intro h
  let limit : Int := -10 ^ Text.maxDigits
  have hlimit : limit < 0 := Int.neg_neg_of_pos (Int.pow_pos (by decide))
  have hnever : ∀ g, ¬Burst.EndsWithin 6 limit (fun _ => 6) [6] g := by
    rintro g ⟨-, hstart | hsize⟩
    · cases hstart
    · omega
  have hroom : ¬Explosion.pending 6 [⟨6, true⟩] ≤ (limit - 1).toNat := by
    rw [Int.toNat_of_nonpos (by omega)]
    decide
  have hstops : explode 6 limit (Roll.die 6 0) [6] = .stop (.unwritable 6 1 1 limit) := by
    rw [← Explosion.excess_of_le (Int.le_refl limit)]
    exact Explosion.settle_of_exceeds (by decide) hroom limit _
  obtain ⟨size, pending, hnamed⟩ := h 6 limit 6 0 [6] (fun _ => 6) hnever
  rw [hstops] at hnamed
  cases hnamed

end DiceNotation
