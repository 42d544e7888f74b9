import DiceNotation.Proofs.Roll.InTurn
import DiceNotation.Proofs.Term.Rolling

/-!
# Explosions end

An explosion goes over its pool in passes. Each of them counts the dice that explode. It is the last one
if there are none, or if the pool would become larger than the limit; otherwise a die is rolled beside
each of them, and the next pass goes over the larger pool.

Nothing is asked of the dice here. Whatever rolls a die again is a source, with a state of its own: it may
show what it likes, be it on the die or not, with all that it was asked before in view, and it may fail at
any call. The passes end all the same: each one that is followed by another adds a die, and the limit leaves
room for so many dice only.
-/

namespace DiceNotation

namespace Explosion

variable {σ : Type} {source : Source σ} {face limit faces offset : Int}

/-! ## Passes -/

/-- The passes of an explosion over a pool, counted, and the report to which they come on a source. -/
inductive Passes (source : Source σ) (face limit : Int) (again : Roll Int) :
    Nat → List PoolDie → σ → Report σ (List Int) → Prop where
  /-- No die explodes. -/
  | settled {pool : List PoolDie} {state : σ} : pending face pool = 0 →
      Passes source face limit again 1 pool state ⟨.ok (pool.map (·.value)), [], state⟩
  /-- The dice that explode would make the pool larger than the limit. -/
  | exceeded {pool : List PoolDie} {state : σ} : pending face pool ≠ 0 →
      limit < pool.length + pending face pool →
      Passes source face limit again 1 pool state
        ⟨.error (excess face pool.length (pending face pool) limit), [], state⟩
  /-- A die that is to be rolled fails. -/
  | failed {pool : List PoolDie} {state left : σ} {e : RollError} {calls : List Int} :
      pending face pool ≠ 0 → pool.length + pending face pool ≤ limit →
      (generation face again pool).run source state = ⟨.error e, calls, left⟩ →
      Passes source face limit again 1 pool state ⟨.error e, calls, left⟩
  /-- All dice are rolled, and the next pass goes over the pool that they make. -/
  | next {pool larger : List PoolDie} {state left : σ} {calls : List Int} {passes : Nat}
      {report : Report σ (List Int)} :
      pending face pool ≠ 0 → pool.length + pending face pool ≤ limit →
      (generation face again pool).run source state = ⟨.ok larger, calls, left⟩ →
      Passes source face limit again passes larger left report →
      Passes source face limit again (passes + 1) pool state (report.after calls)

/-! ## A pass -/

/-- **A step.** A generation rolls no more dice than explode. If it goes well it has rolled one for each of
them, and the pool has grown by as many, the dice that were there standing in their order. -/
theorem run_generation_grows (source : Source σ) (face faces offset : Int) (pool : List PoolDie) (state : σ) :
    let report := (generation face (Roll.die faces offset) pool).run source state
    report.calls.length ≤ pending face pool ∧ ∀ larger, report.outcome = .ok larger →
      report.calls.length = pending face pool ∧ larger.length = pool.length + pending face pool ∧
        (pool.map (·.value)).Sublist (larger.map (·.value)) := by
  dsimp only
  have hdie := Roll.die_gives (fun _ _ => True) faces offset
  have hgives := generation_gives hdie face fun d (_ : d ∈ pool) => trivial
  constructor
  · -- whatever stops the generation, its calls are the first ones of those of a full one
    obtain ⟨more, _, ⟨hcalls, -⟩, -⟩ :=
      Roll.Ends.run hgives source (fun _ _ _ _ _ => trivial) (fun _ => ⟨0, trivial⟩) state
    have hlength := congrArg List.length hcalls
    rw [List.length_append, List.length_replicate] at hlength
    omega
  · intro larger hlarger
    obtain ⟨hcalls, _, heq, hlength, hsublist, -⟩ :=
      Roll.Ends.run_ok hgives (fun _ _ _ _ _ => trivial) hlarger
    cases heq
    exact ⟨by rw [hcalls, List.length_replicate], hlength, hsublist⟩

/-! ## All passes -/

/-- The room for dice is what the limit leaves beside the pool. -/
def roomFor (limit : Int) (pool : List PoolDie) : Nat := (limit - pool.length).toNat

/-- An explosion of a pool is a row of passes over it. -/
theorem exists_passes (source : Source σ) (face limit faces offset : Int) (pool : List PoolDie) (state : σ) :
    ∃ passes, Passes source face limit (Roll.die faces offset) passes pool state
      ((settle face limit (Roll.die faces offset) (roomFor limit pool) pool).run source state) := by
  induction hroom : roomFor limit pool using Nat.strongRecOn generalizing pool state with
  | ind room ih =>
    unfold roomFor at hroom
    by_cases hzero : pending face pool = 0
    · rw [settle_of_pending_eq_zero hzero]
      exact ⟨1, .settled hzero⟩
    by_cases hfits : pending face pool ≤ room
    · rw [settle_of_fits hzero hfits, Roll.run_bind]
      have hlimit : pool.length + pending face pool ≤ limit := by omega
      have hgrows := run_generation_grows source face faces offset pool state
      rcases hrun : (generation face (Roll.die faces offset) pool).run source state with ⟨outcome, calls, left⟩
      rw [hrun] at hgrows
      cases outcome with
      | error e => exact ⟨1, .failed hzero hlimit hrun⟩
      | ok larger =>
        obtain ⟨-, hlength, -⟩ := hgrows.2 larger rfl
        -- the dice that were rolled have taken their part of the room
        have hless : roomFor limit larger = room - pending face pool := by
          unfold roomFor
          omega
        obtain ⟨passes, hpasses⟩ := ih (room - pending face pool) (by omega) larger left hless
        exact ⟨passes + 1, .next hzero hlimit hrun hpasses⟩
    · rw [settle_of_exceeds hzero hfits]
      exact ⟨1, .exceeded hzero (by omega)⟩

/-- **All passes together** are at most one more than the dice that they roll, and of these there are no more
than there was room for. If they come to an end the pool has grown by the dice that were rolled. -/
theorem Passes.bounds {passes : Nat} {pool : List PoolDie} {state : σ} {report : Report σ (List Int)}
    (h : Passes source face limit (Roll.die faces offset) passes pool state report) :
    passes ≤ report.calls.length + 1 ∧ report.calls.length ≤ roomFor limit pool ∧
      ∀ values, report.outcome = .ok values → values.length = pool.length + report.calls.length ∧
        (pool.map (·.value)).Sublist values := by
  unfold roomFor
  induction h with
  | settled _ =>
    refine ⟨Nat.le_refl 1, Nat.zero_le _, ?_⟩
    rintro _ ⟨⟩
    exact ⟨List.length_map _, List.Sublist.refl _⟩
  | exceeded _ _ => exact ⟨Nat.le_refl 1, Nat.zero_le _, nofun⟩
  | @failed pool state left e calls _ hlimit hrun =>
    have hcalls := (run_generation_grows source face faces offset pool state).1
    rw [hrun] at hcalls
    refine ⟨Nat.le_add_left 1 _, ?_, nofun⟩
    dsimp only at hcalls ⊢
    omega
  | @next pool larger state left calls passes report hsome hlimit hrun _ ih =>
    have hgrows := (run_generation_grows source face faces offset pool state).2
    rw [hrun] at hgrows
    obtain ⟨hcalls, hlength, hsublist⟩ := hgrows larger rfl
    obtain ⟨hpasses, hroom, hvalues⟩ := ih
    have hall : (report.after calls).calls.length = calls.length + report.calls.length := List.length_append
    dsimp only at hcalls
    rw [hall]
    -- the pass has rolled a die at least, which is what pays for it
    refine ⟨by omega, by omega, fun values hok => ?_⟩
    obtain ⟨hgrown, hkept⟩ := hvalues values hok
    exact ⟨by omega, hsublist.trans hkept⟩

end Explosion

/--
**Explosions end within their budget.**

Let the dice beside those that explode come from any source. The passes of an explosion come to an end, and
its budget is what the limit leaves beside the dice of the roll: it makes no more calls than that, and no
more passes than that and one. Where all goes well, the dice of the roll stand in their order among those of
the result, which are as many as those and the calls together; and these are not more than the limit, or than
the dice of the roll where these were more.
-/
theorem explode_ends_within_budget {σ : Type} (source : Source σ) (face limit faces offset : Int)
    (rolls : List Int) (state : σ) :
    let again := Roll.die faces offset
    let report := (explode face limit again rolls).run source state
    let budget := max 0 (limit - rolls.length)
    (∃ passes, Explosion.Passes source face limit again passes (rolls.map (⟨·, true⟩)) state report) ∧
      (∀ passes, Explosion.Passes source face limit again passes (rolls.map (⟨·, true⟩)) state report →
        passes ≤ budget + 1) ∧
      report.calls.length ≤ budget ∧
      ∀ values, report.outcome = .ok values →
        values.length ≤ max (rolls.length : Int) limit ∧ rolls.Sublist values ∧
          values.length = rolls.length + report.calls.length := by
  intro again report budget
  have hfresh : (rolls.map (PoolDie.mk · true)).length = rolls.length := List.length_map _
  have hfaces : (rolls.map (PoolDie.mk · true)).map (·.value) = rolls := by
    rw [List.map_map]
    exact List.map_id rolls
  have hpasses : ∃ passes, Explosion.Passes source face limit again passes (rolls.map (⟨·, true⟩)) state report := by
    have hall := Explosion.exists_passes source face limit faces offset (rolls.map (PoolDie.mk · true)) state
    rwa [Explosion.roomFor, hfresh] at hall
  -- what is true of all rows of passes is true of the one that there is
  obtain ⟨first, hfirst⟩ := hpasses
  obtain ⟨-, hcalls, hvalues⟩ := hfirst.bounds
  rw [Explosion.roomFor, hfresh] at hcalls
  have hbudget : (report.calls.length : Int) ≤ budget := by omega
  refine ⟨⟨first, hfirst⟩, fun passes h => ?_, hbudget, fun values hok => ?_⟩
  · have hbound := h.bounds.1
    omega
  · obtain ⟨hlength, hsublist⟩ := hvalues values hok
    rw [hfresh] at hlength
    rw [hfaces] at hsublist
    exact ⟨by omega, hsublist, hlength⟩

/-- A die that shows its face again and again uses the budget up. -/
example : ((explode 6 3 (Roll.die 6 0) [6]).run (fun _ state => (.ok 6, state)) ()).calls = [6, 6] := by
  decide +kernel

end DiceNotation
